import DotmacSub.Billing.Cadence
import DotmacSub.Models.CustomerSubledger
import DotmacSub.Models.DomainErrors

/-!
# Operational customer postings

The participant of `services/billing/customer_subledger.py`: it records posting groups inside the
transaction of another owner and derives a typed position from them.
-/

namespace DotmacSub

open Store Checked Decimal

namespace CustomerSubledger

def owner : String := "financial.customer_subledger"

def error (suffix message : String) (details : List (String × Detail) := []) : DomainError :=
  ⟨owner ++ "." ++ suffix, message, details⟩

/-- One typed movement of a command. -/
structure EffectInput where
  effect : PositionEffectKind
  amount : ℚ
  links : EffectLinks := {}
deriving DecidableEq

/-- Typed request to stage one posting group.  An empty key is no key. -/
structure StagePostingGroupCommand where
  accountId : ℕ
  currency : String
  commandKind : PostingCommandKind
  producerOwner : PostingProducer
  sourceKind : PostingSourceKind
  sourceId : ℕ
  occurredAt : Moment
  effects : List EffectInput := []
  idempotencyKey : String := ""

/-- Typed request to negate one complete posting group. -/
structure StageReversalCommand where
  originalGroupId : ℕ
  producerOwner : PostingProducer
  sourceKind : PostingSourceKind
  sourceId : ℕ
  occurredAt : Moment
  idempotencyKey : String := ""

/-- What the participant uses of the host command. -/
structure PostingContext where
  ownerCommandActive : Bool
  idempotencyKey : String

def keyOr (idempotencyKey : String) (context : PostingContext) : String :=
  if idempotencyKey = "" then context.idempotencyKey else idempotencyKey

def groupKey (idempotencyKey : String) (context : PostingContext) : Except DomainError String := do
  ensure (keyOr idempotencyKey context ≠ "") (error "missing_idempotency_key"
    "A posting group requires a business idempotency key.")
  return keyOr idempotencyKey context

def requireInstant (occurredAt : Moment) : Except DomainError ℤ :=
  match occurredAt with
  | .naive _ => .error (error "invalid_posting_instant"
      "Posting occurred-at must be timezone-aware.")
  | .aware instant => .ok instant

def validateEffect (item : EffectInput) : Except DomainError Unit :=
  ensure (0 < item.amount) (error "invalid_effect_amount"
    "Every position effect amount must be positive." [("effect", .text item.effect.value)])

/-- The checks on a command; returns its key and its instant. -/
def validate (command : StagePostingGroupCommand) (context : PostingContext) :
    Except DomainError (String × ℤ) := do
  let key ← groupKey command.idempotencyKey context
  ensure (command.currency.length = 3) (error "invalid_posting_currency"
    "Posting currency must be a three-letter code." [("currency", .text command.currency)])
  let occurredAt ← requireInstant command.occurredAt
  command.effects.forM validateEffect
  return (key, occurredAt)

/-- The comparison form of an effect: its amount has four places. -/
structure Canonical where
  effect : PositionEffectKind
  amount : ℚ
  links : EffectLinks
deriving DecidableEq

def canonical (effect : PositionEffectKind) (amount : ℚ) (links : EffectLinks) : Canonical :=
  ⟨effect, quantize halfEven 4 amount, links⟩

def linksComparable : List (Option ℕ) → List (Option ℕ) → Bool
  | a :: as, b :: bs => if a = b then linksComparable as bs else a.isSome == b.isSome
  | _, _ => true

/-- Two effects can be ordered. -/
def comparable (x y : Canonical) : Bool :=
  x.effect ≠ y.effect || x.amount ≠ y.amount || linksComparable x.links.toList y.links.toList

/-- An amount of four places has at most the 28 digits of the context. -/
def quantizable (x : Canonical) : Prop := |x.amount| * 10 ^ 4 < 10 ^ 28

instance (x : Canonical) : Decidable (quantizable x) := inferInstanceAs (Decidable (_ < _))

/-- A rounded amount with too many digits. -/
def invalidOperation : DomainError :=
  ⟨"InvalidOperation", "[<class 'decimal.InvalidOperation'>]", []⟩

/-- A link is compared with an absent one. -/
def unorderable : DomainError :=
  ⟨"TypeError", "'<' not supported between instances of 'NoneType' and 'str'", []⟩

/-- Rounding raises when a result has too many digits, and sorting when two elements cannot be
ordered; sorted lists are equal when the lists are equal up to order. -/
def sortCanonical (effects : List Canonical) : Except DomainError (List Canonical) := do
  ensure (∀ x ∈ effects, quantizable x) invalidOperation
  ensure (∀ x ∈ effects, ∀ y ∈ effects, comparable x y = true) unorderable
  return effects

def recordedEffects (existing : PostingGroup) : List Canonical :=
  existing.effects.map fun e => canonical e.effect e.amount.value e.links

def commandedEffects (effects : List EffectInput) : List Canonical :=
  effects.map fun e => canonical e.effect e.amount e.links

def sameMeaning (existing : PostingGroup) (command : StagePostingGroupCommand)
    (occurredAt : ℤ) : Prop :=
  existing.accountId = command.accountId ∧ existing.currency = command.currency ∧
    existing.commandKind = command.commandKind ∧ existing.sourceKind = command.sourceKind ∧
    existing.sourceId = command.sourceId ∧ existing.occurredAt = occurredAt

instance (existing : PostingGroup) (command : StagePostingGroupCommand) (occurredAt : ℤ) :
    Decidable (sameMeaning existing command occurredAt) :=
  inferInstanceAs (Decidable (_ ∧ _ ∧ _ ∧ _ ∧ _ ∧ _))

/-- A replay must carry the recorded meaning and effects. -/
def assertReplayMatches (existing : PostingGroup) (command : StagePostingGroupCommand) :
    Except DomainError Unit := do
  let recorded ← sortCanonical (recordedEffects existing)
  let commanded ← sortCanonical (commandedEffects command.effects)
  let same : Bool := match command.occurredAt with
    | .naive _ => false
    | .aware occurredAt => sameMeaning existing command occurredAt ∧ recorded.Perm commanded
  ensure (same = true) (error "idempotency_conflict"
    ("A replayed idempotency key carries a different financial " ++
      "meaning than the recorded posting group.")
    [("group_id", .id existing.id), ("idempotency_key", .text existing.idempotencyKey)])

def withKey (db : Subledger) (producer : PostingProducer) (key : String) : Option PostingGroup :=
  db.groups.rows.find? fun g => g.producerOwner = producer ∧ g.idempotencyKey = key

def reversalOf (db : Subledger) (groupId : ℕ) : Option PostingGroup :=
  db.groups.rows.find? fun g => g.reversesGroupId = some groupId

def flush (groups : Table PostingGroup) (cutover : Bool) : Except DomainError Subledger :=
  if h : Consistent groups.rows then .ok ⟨groups, cutover, h⟩
  else .error (.integrityError "customer_posting_groups")

/-- The authority new groups are written with; `manifest` is the authority that the declared
migration state permits. -/
def permittedAuthority (manifest : BillingRecordAuthority) (db : Subledger) :
    BillingRecordAuthority :=
  if db.cutover then .authoritative else manifest

def groupRow (command : StagePostingGroupCommand) (authority : BillingRecordAuthority)
    (key : String) (occurredAt : ℤ) (id : ℕ) : PostingGroup where
  id
  accountId := command.accountId
  currency := command.currency
  authority
  commandKind := command.commandKind
  producerOwner := command.producerOwner
  sourceKind := command.sourceKind
  sourceId := command.sourceId
  occurredAt
  idempotencyKey := key
  reversesGroupId := none
  effects := command.effects.map fun e => ⟨e.effect, .store 4 e.amount, e.links⟩

/-- Stage one posting group inside the calling owner's transaction. -/
def stagePostingGroup (manifest : BillingRecordAuthority) (db : Subledger)
    (command : StagePostingGroupCommand) (context : PostingContext) :
    Except DomainError (Subledger × PostingGroup) := do
  ensure (context.ownerCommandActive = true) (error "posting_requires_owner_command"
    "Posting groups are staged only inside an active owner command.")
  let (key, occurredAt) ← validate command context
  match withKey db command.producerOwner key with
  | some existing => do
      assertReplayMatches existing command
      return (db, existing)
  | none => do
      let row := groupRow command (permittedAuthority manifest db) key occurredAt
      let group := row db.groups.next
      let db ← flush (db.groups.insert row fun _ => rfl) db.cutover
      return (db, group)

/-- The group that undoes another one: its complete effects, under the reversal's own source. -/
def reversalCommand (original : PostingGroup) (command : StageReversalCommand) :
    StagePostingGroupCommand where
  accountId := original.accountId
  currency := original.currency
  commandKind := .reversal
  producerOwner := command.producerOwner
  sourceKind := command.sourceKind
  sourceId := command.sourceId
  occurredAt := command.occurredAt
  effects := original.effects.map fun e => ⟨e.effect, e.amount.value, e.links⟩
  idempotencyKey := command.idempotencyKey

def linked (originalId : ℕ) (g : PostingGroup) : PostingGroup :=
  { g with reversesGroupId := some originalId }

lemma id_linked (originalId : ℕ) (g : PostingGroup) : Row.id (linked originalId g) = Row.id g := rfl

/-- Record a group with the effects of another one, and link it to that group. -/
def stageReversal (manifest : BillingRecordAuthority) (db : Subledger)
    (command : StageReversalCommand) (context : PostingContext) :
    Except DomainError (Subledger × PostingGroup) := do
  ensure (context.ownerCommandActive = true) (error "posting_requires_owner_command"
    "Reversals are staged only inside an active owner command.")
  let original ← orRefuse (db.groups.get? command.originalGroupId)
    (error "posting_group_not_found" "Reversal requires an existing posting group."
      [("group_id", .id command.originalGroupId)])
  match reversalOf db original.id with
  | some already => do
      ensure (already.producerOwner = command.producerOwner ∧
          already.idempotencyKey = keyOr command.idempotencyKey context)
        (error "posting_group_already_reversed"
          "A posting group has one active reversal chain."
          [("group_id", .id original.id), ("reversal_id", .id already.id)])
      assertReplayMatches already (reversalCommand original command)
      return (db, already)
  | none => do
      let (db, reversal) ← stagePostingGroup manifest db (reversalCommand original command) context
      let db ← flush (db.groups.update reversal.id (linked original.id) (id_linked original.id))
        db.cutover
      return (db, linked original.id reversal)

inductive Lane
  | collectibleReceivable
  | unappliedCustomerCredit
  | prepaidFundingReserved
  | prepaidFundingConsumed
  | writtenOffTotal
  | refundedTotal
  | adjustmentTotal
deriving DecidableEq

def laneMoves : PositionEffectKind → Option (Lane × ℤ)
  | .receivableIssued => some (.collectibleReceivable, 1)
  | .receivableSettled => some (.collectibleReceivable, -1)
  | .receivableWrittenOff => some (.collectibleReceivable, -1)
  | .customerCreditCreated => some (.unappliedCustomerCredit, 1)
  | .customerCreditConsumed => some (.unappliedCustomerCredit, -1)
  | .creditRefunded => some (.unappliedCustomerCredit, -1)
  | .prepaidFundingReserved => some (.prepaidFundingReserved, 1)
  | .prepaidReservationReleased => some (.prepaidFundingReserved, -1)
  | .prepaidFundingConsumed => some (.prepaidFundingReserved, -1)
  | .adjustmentApplied => none

def evidenceMoves : PositionEffectKind → Option Lane
  | .receivableWrittenOff => some .writtenOffTotal
  | .creditRefunded => some .refundedTotal
  | .adjustmentApplied => some .adjustmentTotal
  | .prepaidFundingConsumed => some .prepaidFundingConsumed
  | _ => none

/-- `lanes[lane] += x`.  Sums of column values stay within the context precision. -/
def addTo (lanes : Lane → ℚ) (lane : Lane) (x : ℚ) : Lane → ℚ :=
  fun l => if l = lane then lanes l + x else lanes l

/-- The loop body over one effect and the reversal link of its group. -/
def applyEffect (lanes : Lane → ℚ) (row : PositionEffect × Option ℕ) : Lane → ℚ :=
  let sign : ℤ := if row.2.isSome then -1 else 1
  let value := row.1.amount.value * sign
  let lanes := match laneMoves row.1.effect with
    | some (lane, direction) => addTo lanes lane (value * direction)
    | none => lanes
  match evidenceMoves row.1.effect with
  | some lane => addTo lanes lane value
  | none => lanes

def authorityScope (cutover : Bool) (authority : Option BillingRecordAuthority) :
    List BillingRecordAuthority :=
  match authority with
  | some authority => [authority]
  | none => if cutover then [.shadow, .authoritative] else [.shadow]

def inScope (accountId : ℕ) (currency : String) (scope : List BillingRecordAuthority)
    (g : PostingGroup) : Prop :=
  g.accountId = accountId ∧ g.currency = currency ∧ g.authority ∈ scope

instance (accountId : ℕ) (currency : String) (scope : List BillingRecordAuthority)
    (g : PostingGroup) : Decidable (inScope accountId currency scope g) :=
  inferInstanceAs (Decidable (_ ∧ _ ∧ _))

def positionRows (groups : List PostingGroup) (accountId : ℕ) (currency : String)
    (scope : List BillingRecordAuthority) : List (PositionEffect × Option ℕ) :=
  (groups.filter (inScope accountId currency scope ·)).flatMap fun g =>
    g.effects.map fun e => (e, g.reversesGroupId)

def lanesOf (groups : List PostingGroup) (accountId : ℕ) (currency : String)
    (scope : List BillingRecordAuthority) : Lane → ℚ :=
  (positionRows groups accountId currency scope).foldl applyEffect fun _ => 0

/-- Typed per-currency position, one value per semantic lane. -/
structure CustomerFinancialPosition where
  accountId : ℕ
  currency : String
  authority : BillingRecordAuthority
  lanes : Lane → ℚ

/-- The signed sum of the effects, one value for each lane. -/
def resolvePosition (db : Subledger) (accountId : ℕ) (currency : String)
    (authority : Option BillingRecordAuthority) : CustomerFinancialPosition where
  accountId
  currency
  authority := authority.getD (if db.cutover then .authoritative else .shadow)
  lanes := lanesOf db.groups.rows accountId currency (authorityScope db.cutover authority)

def moveOf (kind : PositionEffectKind) (lane : Lane) : ℚ :=
  (match laneMoves kind with
    | some (l, direction) => if l = lane then (direction : ℚ) else 0
    | none => 0) +
  match evidenceMoves kind with
    | some l => if l = lane then 1 else 0
    | none => 0

def netMove (effects : List PositionEffect) (lane : Lane) : ℚ :=
  (effects.map fun e => e.amount.value * moveOf e.effect lane).sum

/-- The sign of a group: a group with a reversal link counts negatively. -/
def signOf (reversesGroupId : Option ℕ) : ℚ := if reversesGroupId.isSome then -1 else 1

def contribution (accountId : ℕ) (currency : String) (scope : List BillingRecordAuthority)
    (lane : Lane) (g : PostingGroup) : ℚ :=
  if inScope accountId currency scope g then signOf g.reversesGroupId * netMove g.effects lane
  else 0

lemma addTo_apply (lanes : Lane → ℚ) (l lane : Lane) (x : ℚ) :
    addTo lanes l x lane = lanes lane + if l = lane then x else 0 := by
  rw [addTo]
  split_ifs with h₁ h₂ h₂
  · rfl
  · exact absurd h₁.symm h₂
  · exact absurd h₂.symm h₁
  · rw [add_zero]

/-- The loop body adds the signed movement of one effect. -/
lemma applyEffect_apply (lanes : Lane → ℚ) (e : PositionEffect) (link : Option ℕ) (lane : Lane) :
    applyEffect lanes (e, link) lane
      = lanes lane + signOf link * (e.amount.value * moveOf e.effect lane) := by
  have hsign : (((if link.isSome then -1 else 1 : ℤ)) : ℚ) = signOf link := by
    rw [signOf]
    split_ifs <;> norm_num
  cases he : e.effect <;>
    simp only [applyEffect, moveOf, laneMoves, evidenceMoves, he, addTo_apply, hsign] <;>
    cases lane <;> simp <;> ring

lemma foldl_applyEffect (effects : List PositionEffect) (link : Option ℕ) (lane : Lane) :
    ∀ lanes : Lane → ℚ, (effects.map fun e => (e, link)).foldl applyEffect lanes lane
      = lanes lane + signOf link * netMove effects lane := by
  induction effects with
  | nil =>
    intro lanes
    simp [netMove]
  | cons e effects ih =>
    intro lanes
    rw [List.map_cons, List.foldl_cons, ih, applyEffect_apply, netMove, netMove, List.map_cons,
      List.sum_cons]
    ring

lemma foldl_positionRows (accountId : ℕ) (currency : String) (scope : List BillingRecordAuthority)
    (lane : Lane) (groups : List PostingGroup) : ∀ lanes : Lane → ℚ,
    (positionRows groups accountId currency scope).foldl applyEffect lanes lane
      = lanes lane + (groups.map (contribution accountId currency scope lane)).sum := by
  induction groups with
  | nil =>
    intro lanes
    simp [positionRows]
  | cons g groups ih =>
    intro lanes
    rw [List.map_cons, List.sum_cons, contribution]
    split_ifs with h
    · rw [show positionRows (g :: groups) accountId currency scope
          = (g.effects.map fun e => (e, g.reversesGroupId))
            ++ positionRows groups accountId currency scope by simp [positionRows, h],
        List.foldl_append, ih, foldl_applyEffect]
      ring
    · rw [show positionRows (g :: groups) accountId currency scope
          = positionRows groups accountId currency scope by simp [positionRows, h], ih]
      ring

/-- **A position is the sum of the contributions of its groups.** -/
theorem lanesOf_eq_sum (groups : List PostingGroup) (accountId : ℕ) (currency : String)
    (scope : List BillingRecordAuthority) (lane : Lane) :
    lanesOf groups accountId currency scope lane
      = (groups.map (contribution accountId currency scope lane)).sum := by
  rw [lanesOf, foldl_positionRows, zero_add]

/-- Two lists of effects with the same comparison forms move every lane alike. -/
lemma netMove_eq_of_canonical {es fs : List PositionEffect}
    (h : (es.map fun e => canonical e.effect e.amount.value e.links).Perm
      (fs.map fun e => canonical e.effect e.amount.value e.links)) (lane : Lane) :
    netMove es lane = netMove fs lane := by
  have hform (l : List PositionEffect) : netMove l lane
      = ((l.map fun e => canonical e.effect e.amount.value e.links).map
          fun c => c.amount * moveOf c.effect lane).sum := by
    rw [netMove, List.map_map]
    refine congrArg List.sum (List.map_congr_left fun e _ => ?_)
    simp only [Function.comp_def, canonical, quantize_of_onGrid e.amount.onGrid]
  rw [hform, hform]
  exact (h.map _).sum_eq

end CustomerSubledger

end DotmacSub
