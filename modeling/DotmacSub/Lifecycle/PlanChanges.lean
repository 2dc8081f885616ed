import DotmacSub.Lifecycle.Commands

/-!
# What a plan change moves

`SubscriptionChangeRequests.apply` goes through the generic update of a subscription, with the offer
and the address of the request as explicit fields, and the update propagates the profile of the new
offer to the credentials of the account.
-/

namespace DotmacSub.PlanChanges

open Checked Store DomainError
open ServiceExtensions (SubscriptionStatus)
open Contracts (BillingCycle)
open Lifecycle (addMonths computeNextBillingAt)

inductive ContractTerm
  | monthToMonth
  | twelveMonth
  | twentyfourMonth
deriving DecidableEq

inductive BillingMode
  | prepaid
  | postpaid
deriving DecidableEq

/-- A subscription, as far as a change of its plan reads it. -/
structure Subscription where
  id : ℕ
  subscriberId : ℕ
  offerId : ℕ
  offerVersionId : Option ℕ
  serviceAddressId : Option ℕ
  status : SubscriptionStatus
  billingMode : BillingMode
  billingCycle : Option BillingCycle
  contractTerm : ContractTerm
  unitPrice : Option ℚ
  startAt : Option ℤ
  endAt : Option ℤ
  nextBillingAt : Option ℤ
  radiusProfileId : Option ℕ
  provisioningNasDeviceId : Option ℕ
deriving DecidableEq

structure AccessCredential where
  id : ℕ
  subscriberId : ℕ
  subscriptionId : Option ℕ
  isActive : Bool
  radiusProfileId : Option ℕ
deriving DecidableEq

inductive RequestStatus
  | pending
  | approved
  | rejected
  | applied
  | canceled
deriving DecidableEq

def RequestStatus.value : RequestStatus → String
  | pending => "pending"
  | approved => "approved"
  | rejected => "rejected"
  | applied => "applied"
  | canceled => "canceled"

structure SubscriptionChangeRequest where
  id : ℕ
  subscriptionId : ℕ
  requestedOfferId : ℕ
  targetServiceAddressId : Option ℕ
  status : RequestStatus
  appliedAt : Option ℤ
deriving DecidableEq

instance : Row Subscription := ⟨Subscription.id⟩
instance : Row AccessCredential := ⟨AccessCredential.id⟩
instance : Row SubscriptionChangeRequest := ⟨SubscriptionChangeRequest.id⟩

structure Db where
  subscriptions : Table Subscription
  credentials : Table AccessCredential
  requests : Table SubscriptionChangeRequest

/-- Download and upload speed. -/
structure Speeds where
  download : Option ℤ
  upload : Option ℤ
deriving DecidableEq

/-- What the catalog has on record: profiles in kbps, offers in Mbps with their profile, the
contracted amount of an offer, and its cycle at a version. -/
structure Catalog where
  profile : ℕ → Option Speeds
  offer : ℕ → Option Speeds
  offerProfile : ℕ → Option ℕ
  contractedAmount : ℕ → Option ℚ
  cycle : ℕ → Option ℕ → BillingCycle

/-- What an application reads beside: the clock, the refusal of the validators or of the financial
owner, the billing mode that is written, and a NAS of the subscriber's site. -/
structure ApplyFacts where
  now : ℤ
  refusal : Option DomainError
  billingMode : BillingMode
  nasDeviceId : Option ℕ

def profileSpeedsMatch (profile : Speeds) (download upload : Option ℤ) : Bool :=
  download.isSome && profile.download = download && (upload = none || profile.upload = upload)

/-- `_radius_profile_inherits_previous_offer`. -/
def inheritsPreviousOffer (catalog : Catalog) (profileId : Option ℕ) (previousOfferId : ℕ) : Bool :=
  match profileId with
  | none => true
  | some profileId =>
    let expected := catalog.offerProfile previousOfferId
    expected = some profileId ||
      (match catalog.profile profileId with
      | none => false
      | some profile =>
        ((expected.bind catalog.profile).any fun expected =>
          profileSpeedsMatch profile expected.download expected.upload) ||
        ((catalog.offer previousOfferId).any fun offer =>
          profileSpeedsMatch profile (offer.download.map (· * 1000)) (offer.upload.map (· * 1000))))

def followed (catalog : Catalog) (profileId : Option ℕ) (previousOfferId offerId : ℕ) : Option ℕ :=
  if inheritsPreviousOffer catalog profileId previousOfferId then catalog.offerProfile offerId
  else profileId

/-- `apply_offer_radius_profile` on a credential of the account. -/
def AccessCredential.follow (catalog : Catalog) (subscriberId previousOfferId offerId : ℕ)
    (credential : AccessCredential) : AccessCredential :=
  if credential.subscriberId = subscriberId ∧ credential.isActive then
    { credential with
      radiusProfileId := followed catalog credential.radiusProfileId previousOfferId offerId }
  else credential

def computeContractEndAt (startAt : ℤ) : ContractTerm → Option ℤ
  | .twelveMonth => some (addMonths startAt 12)
  | .twentyfourMonth => some (addMonths startAt 24)
  | .monthToMonth => none

/-- `(now - existing_next).days > 60`. -/
def isStale (now anchor : ℤ) : Bool := 60 < (now - anchor) / Gregorian.usPerDay

def anchorAfter (subscription : Subscription) (offerChanging : Bool) (now startAt : ℤ)
    (cycle : BillingCycle) : ℤ :=
  match subscription.nextBillingAt with
  | none => computeNextBillingAt startAt cycle
  | some anchor =>
    if isStale now anchor then computeNextBillingAt now cycle
    else if offerChanging then anchor
    else computeNextBillingAt startAt cycle

/-- The row that `Subscriptions.update` writes for an offer and an address. -/
def updated (catalog : Catalog) (facts : ApplyFacts) (subscription : Subscription) (offerId : ℕ)
    (serviceAddressId : Option ℕ) : Subscription :=
  let offerChanges : Bool := offerId ≠ subscription.offerId
  -- a version pinned for the previous offer is dropped
  let offerVersionId := if offerChanges then none else subscription.offerVersionId
  let startAt := subscription.startAt.getD facts.now
  let cycle := subscription.billingCycle.getD (catalog.cycle offerId offerVersionId)
  let active : Bool := subscription.status = .active
  { subscription with
    offerId := offerId
    offerVersionId := offerVersionId
    serviceAddressId := serviceAddressId
    billingMode := facts.billingMode
    unitPrice :=
      if offerChanges then catalog.contractedAmount offerId else subscription.unitPrice
    startAt := some startAt
    nextBillingAt :=
      if active then some (anchorAfter subscription offerChanges facts.now startAt cycle)
      else subscription.nextBillingAt
    endAt := subscription.endAt.or (computeContractEndAt startAt subscription.contractTerm)
    radiusProfileId := followed catalog subscription.radiusProfileId subscription.offerId offerId
    provisioningNasDeviceId :=
      if active then subscription.provisioningNasDeviceId.or facts.nasDeviceId
      else subscription.provisioningNasDeviceId }

lemma follow_id {catalog : Catalog} {subscriberId previousOfferId offerId : ℕ}
    (credential : AccessCredential) :
    (credential.follow catalog subscriberId previousOfferId offerId).id = credential.id := by
  rw [AccessCredential.follow]
  split_ifs <;> rfl

def Subscription.over (new row : Subscription) : Subscription := { new with id := row.id }

/-- The tables that the update leaves. -/
def written (catalog : Catalog) (facts : ApplyFacts) (db : Db) (subscription : Subscription)
    (offerId : ℕ) (serviceAddressId : Option ℕ) : Db :=
  { db with
    subscriptions := db.subscriptions.update subscription.id
      (updated catalog facts subscription offerId serviceAddressId).over fun _ => rfl
    credentials := db.credentials.map
      (·.follow catalog subscription.subscriberId subscription.offerId offerId) follow_id }

def update (catalog : Catalog) (facts : ApplyFacts) (db : Db) (subscription : Subscription)
    (offerId : ℕ) (serviceAddressId : Option ℕ) : Except DomainError Db :=
  match facts.refusal with
  | some refusal => .error refusal
  | none => .ok (written catalog facts db subscription offerId serviceAddressId)

def SubscriptionChangeRequest.isMet (request : SubscriptionChangeRequest)
    (subscription : Subscription) : Prop :=
  subscription.offerId = request.requestedOfferId ∧
    (request.targetServiceAddressId = none ∨
      subscription.serviceAddressId = request.targetServiceAddressId)

instance (request : SubscriptionChangeRequest) (subscription : Subscription) :
    Decidable (request.isMet subscription) := by
  unfold SubscriptionChangeRequest.isMet
  infer_instance

def Db.markApplied (db : Db) (requestId : ℕ) (now : ℤ) : Db :=
  { db with
    requests := db.requests.update requestId
      (fun row => { row with status := .applied, appliedAt := some now }) fun _ => rfl }

/-- The application of an approved request. -/
def apply (catalog : Catalog) (facts : ApplyFacts) (db : Db) (requestId : ℕ) :
    Except DomainError Db := do
  let request ← orRefuse (db.requests.get? requestId) (httpException 404 "Change request not found")
  if request.status = .applied then return db
  ensure (request.status = .approved)
    (httpException 400 s!"Cannot apply request with status {request.status.value}")
  let subscription ← orRefuse (db.subscriptions.get? request.subscriptionId)
    (httpException 404 "Subscription not found")
  if request.isMet subscription then return db.markApplied requestId facts.now
  update catalog facts (db.markApplied requestId facts.now) subscription request.requestedOfferId
    request.targetServiceAddressId

/-- What an application does to the account: every other subscription and every credential bound to
another subscription stays, and so do the address, if none is named, the status, the anchor, unless
it is over 60 days old, and a contract end. -/
structure OwnService (now : ℤ) (db db' : Db) (request : SubscriptionChangeRequest)
    (subscription : Subscription) : Prop where
  others : ∀ i, i ≠ subscription.id → db'.subscriptions.get? i = db.subscriptions.get? i
  credentials : ∀ credential ∈ db.credentials.rows,
    (∃ other ∈ credential.subscriptionId, other ≠ subscription.id) →
      db'.credentials.get? credential.id = some credential
  own : ∃ subscription', db'.subscriptions.get? subscription.id = some subscription' ∧
    (request.targetServiceAddressId = none →
      subscription'.serviceAddressId = subscription.serviceAddressId) ∧
    subscription'.status = subscription.status ∧
    (∀ anchor ∈ subscription.nextBillingAt, now - anchor ≤ 60 * Gregorian.usPerDay →
      subscription'.nextBillingAt = some anchor) ∧
    ∀ endAt ∈ subscription.endAt, subscription'.endAt = some endAt

/-- When an application is confined: a request without an address is for a service without one; no
credential of another service follows the offer to another profile; and an active service that keeps
its offer has the anchor of its first period. -/
structure Confined (catalog : Catalog) (now : ℤ) (db : Db) (request : SubscriptionChangeRequest)
    (subscription : Subscription) : Prop where
  addressed : request.targetServiceAddressId = none → subscription.serviceAddressId = none
  unbound : ∀ credential ∈ db.credentials.rows,
    (∃ other ∈ credential.subscriptionId, other ≠ subscription.id) →
      credential.subscriberId = subscription.subscriberId → credential.isActive = true →
      inheritsPreviousOffer catalog credential.radiusProfileId subscription.offerId = true →
        credential.radiusProfileId = catalog.offerProfile request.requestedOfferId
  anchored : subscription.status = .active → request.requestedOfferId = subscription.offerId →
    ∀ anchor ∈ subscription.nextBillingAt, now - anchor ≤ 60 * Gregorian.usPerDay →
      computeNextBillingAt (subscription.startAt.getD now) (subscription.billingCycle.getD
        (catalog.cycle subscription.offerId subscription.offerVersionId)) = anchor

section Frame

variable {catalog : Catalog} {facts : ApplyFacts} {db db' : Db} {requestId : ℕ}
  {request : SubscriptionChangeRequest} {subscription : Subscription}

lemma ownService_of_eq {now : ℤ}
    (hsame : db.subscriptions.get? subscription.id = some subscription)
    (hsubscriptions : db'.subscriptions = db.subscriptions)
    (hcredentials : db'.credentials = db.credentials) :
    OwnService now db db' request subscription where
  others _ _ := by rw [hsubscriptions]
  credentials _ hcredential _ := hcredentials ▸ Table.get?_eq_some.mpr ⟨hcredential, rfl⟩
  own := ⟨subscription, hsubscriptions ▸ hsame, fun _ => rfl, rfl, fun _ h _ => h, fun _ h => h⟩

lemma isStale_eq_false {now anchor : ℤ} (h : now - anchor ≤ 60 * Gregorian.usPerDay) :
    isStale now anchor = false := by
  rw [isStale, decide_eq_false_iff_not, Int.not_lt]
  have hday : (0 : ℤ) < Gregorian.usPerDay := by decide
  exact (Int.ediv_le_ediv hday h).trans_eq (Int.mul_ediv_cancel _ (ne_of_gt hday))

lemma follow_eq_self_iff {credential : AccessCredential} {subscriberId previous offer : ℕ} :
    credential.follow catalog subscriberId previous offer = credential ↔
      (credential.subscriberId = subscriberId → credential.isActive = true →
        inheritsPreviousOffer catalog credential.radiusProfileId previous = true →
          credential.radiusProfileId = catalog.offerProfile offer) := by
  rw [AccessCredential.follow, followed]
  constructor
  · intro h haccount hactive hinherits
    rw [if_pos ⟨haccount, hactive⟩, if_pos hinherits] at h
    exact (congrArg AccessCredential.radiusProfileId h).symm
  · intro h
    split_ifs with hmine hinherits
    · rw [← h hmine.1 hmine.2 hinherits]
    · rfl
    · rfl

lemma anchor_updated_iff {anchor : ℤ} {address : Option ℕ} {offerId : ℕ}
    (hanchor : subscription.nextBillingAt = some anchor)
    (hfresh : facts.now - anchor ≤ 60 * Gregorian.usPerDay) :
    (updated catalog facts subscription offerId address).nextBillingAt = some anchor ↔
      (subscription.status = .active → offerId = subscription.offerId →
        computeNextBillingAt (subscription.startAt.getD facts.now) (subscription.billingCycle.getD
          (catalog.cycle subscription.offerId subscription.offerVersionId)) = anchor) := by
  show (if _ then _ else _) = _ ↔ _
  by_cases hactive : subscription.status = .active
  · rw [if_pos (decide_eq_true hactive), anchorAfter, hanchor]
    simp only [isStale_eq_false hfresh, Bool.false_eq_true, if_false]
    by_cases hoffer : offerId = subscription.offerId
    · simp [hoffer, hactive]
    · simp [hoffer]
  · rw [if_neg fun h => hactive (of_decide_eq_true h)]
    exact ⟨fun _ h => absurd h hactive, fun _ => hanchor⟩

lemma ownService_written_iff
    (hsame : db.subscriptions.get? subscription.id = some subscription) :
    OwnService facts.now db (written catalog facts (db.markApplied requestId facts.now) subscription
        request.requestedOfferId request.targetServiceAddressId) request subscription ↔
      Confined catalog facts.now db request subscription := by
  generalize hwritten : written catalog facts (db.markApplied requestId facts.now) subscription
    request.requestedOfferId request.targetServiceAddressId = db'
  have hown : db'.subscriptions.get? subscription.id = some (updated catalog facts subscription
      request.requestedOfferId request.targetServiceAddressId) :=
    hwritten ▸ Table.get?_update_self (g := Subscription.over _) (h := fun _ => rfl) hsame
  have hothers : ∀ i, i ≠ subscription.id → db'.subscriptions.get? i = db.subscriptions.get? i :=
    fun i hi => hwritten ▸ Table.get?_update_ne (g := Subscription.over _) (h := fun _ => rfl) hi
  have hfollow : ∀ credential ∈ db.credentials.rows, db'.credentials.get? credential.id =
      some (credential.follow catalog subscription.subscriberId subscription.offerId
        request.requestedOfferId) := by
    intro credential hcredential
    have hget : db.credentials.get? credential.id = some credential :=
      Table.get?_eq_some.mpr ⟨hcredential, rfl⟩
    rw [← hwritten, written, Table.get?_map]
    exact congrArg (Option.map _) hget
  constructor
  · rintro ⟨-, hcredentials, subscription', hget, haddress, -, hanchor, -⟩
    obtain rfl := Option.mem_unique hown hget
    refine ⟨fun hnone => (haddress hnone).symm.trans hnone, fun credential hcredential hbound => ?_,
      fun hactive hoffer anchor ha hfresh => ?_⟩
    · have hkept := (hfollow credential hcredential).symm.trans
        (hcredentials credential hcredential hbound)
      exact follow_eq_self_iff.mp (Option.some.inj hkept)
    · exact (anchor_updated_iff ha hfresh).mp (hanchor anchor ha hfresh) hactive hoffer
  · intro hconfined
    refine ⟨hothers, fun credential hcredential hbound => ?_,
      _, hown, fun hnone => hnone.trans (hconfined.addressed hnone).symm, rfl,
      fun anchor ha hfresh => ?_, fun endAt hend => ?_⟩
    · refine (hfollow credential hcredential).trans (congrArg some ?_)
      exact follow_eq_self_iff.mpr (hconfined.unbound credential hcredential hbound)
    · exact (anchor_updated_iff ha hfresh).mpr fun hactive hoffer =>
        hconfined.anchored hactive hoffer anchor ha hfresh
    · show subscription.endAt.or _ = _
      rw [Option.mem_def.mp hend, Option.some_or]

end Frame

/-- **A change touches only its own service** exactly when it is confined. -/
theorem ownService_iff (catalog : Catalog) (facts : ApplyFacts) (db db' : Db) (requestId : ℕ)
    (request : SubscriptionChangeRequest) (subscription : Subscription)
    (hrequest : db.requests.get? requestId = some request)
    (hsubscription : db.subscriptions.get? request.subscriptionId = some subscription)
    (hok : apply catalog facts db requestId = .ok db') :
    OwnService facts.now db db' request subscription ↔
      request.status = .applied ∨ request.isMet subscription ∨
        Confined catalog facts.now db request subscription := by
  have hsame : db.subscriptions.get? subscription.id = some subscription :=
    Table.get?_eq_some.mpr ⟨(Table.get?_eq_some.mp hsubscription).1, rfl⟩
  obtain ⟨request', hrequest', hok⟩ := orRefuse_bind_eq_ok.mp hok
  obtain rfl := Option.mem_unique hrequest hrequest'
  split_ifs at hok with hdone
  · obtain rfl := pure_eq_ok.mp hok
    exact ⟨fun _ => .inl hdone, fun _ => ownService_of_eq hsame rfl rfl⟩
  obtain ⟨-, hok⟩ := ensure_bind_eq_ok.mp hok
  obtain ⟨subscription', hsubscription', hok⟩ := orRefuse_bind_eq_ok.mp hok
  obtain rfl := Option.mem_unique hsubscription hsubscription'
  split_ifs at hok with hmet
  · obtain rfl := pure_eq_ok.mp hok
    exact ⟨fun _ => .inr (.inl hmet), fun _ => ownService_of_eq hsame rfl rfl⟩
  rw [update] at hok
  split at hok
  · cases hok
  · obtain rfl := Except.ok.inj hok
    simp only [hdone, hmet, false_or]
    exact ownService_written_iff hsame

/-- An active service with an address and a credential, and a request for another offer. -/
def addressed (target : Option ℕ) : Db where
  subscriptions := Table.empty.insert (fun i =>
    ⟨i, 0, 0, none, some 7, .active, .postpaid, none, .monthToMonth, none, some 0, none, some 0,
      none, none⟩) fun _ => rfl
  credentials := Table.empty.insert (fun i => ⟨i, 0, some 0, true, none⟩) fun _ => rfl
  requests := Table.empty.insert (fun i => ⟨i, 0, 1, target, .approved, none⟩) fun _ => rfl

def twoOffers : Catalog :=
  ⟨fun _ => none, fun _ => none, fun offer => some offer, fun _ => some 100, fun _ _ => .monthly⟩

def validated : ApplyFacts := ⟨0, none, .postpaid, none⟩

/-- A change that names its address is confined. -/
theorem ownService_iff_named : ∃ db' request subscription,
    apply twoOffers validated (addressed (some 8)) 0 = .ok db' ∧
      OwnService 0 (addressed (some 8)) db' request subscription := by
  refine ⟨_, _, _, rfl, (ownService_iff twoOffers validated (addressed (some 8)) _ 0 _ _ rfl rfl
    rfl).mpr (.inr (.inr ⟨nofun, ?_, fun _ => nofun⟩))⟩
  rintro credential hcredential ⟨other, hother, hne⟩
  obtain rfl := List.mem_singleton.mp hcredential
  exact absurd (Option.some.inj hother).symm hne

/-- **A plan change without an address clears the address** of the service. -/
theorem address_cleared : ¬ ∀ (catalog : Catalog) (facts : ApplyFacts) (db db' : Db) (requestId : ℕ)
    (request : SubscriptionChangeRequest) (subscription : Subscription),
    db.requests.get? requestId = some request →
    db.subscriptions.get? request.subscriptionId = some subscription →
    apply catalog facts db requestId = .ok db' →
      OwnService facts.now db db' request subscription := by
  intro hall
  obtain ⟨-, -, subscription', hget, haddress, -⟩ :=
    hall twoOffers validated (addressed none) _ 0 _ _ rfl rfl rfl
  obtain rfl := Option.some.inj hget
  exact absurd (haddress rfl) (by decide)

end DotmacSub.PlanChanges
