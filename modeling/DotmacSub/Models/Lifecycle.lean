import DotmacSub.Billing.Contracts
import DotmacSub.Models.ServiceExtension

/-!
# Subscriptions under enforcement

The rows of the lifecycle owner: accounts with their administrative override, subscriptions, the
enforcement locks that hold them, the evidence of their transitions, and the service orders of a
sale.  Instants are microseconds; the calendar has no last year.  What the owner derives from these
rows and never reads back (the account status, the access state, events) is left out.
-/

namespace DotmacSub.Lifecycle

open Store
open ServiceExtensions (SubscriptionStatus)
open Contracts (BillingCycle)

/-- Why a subscription was suspended. -/
inductive EnforcementReason
  | overdue
  | fup
  | prepaid
  | admin
  | customerHold
  | fraud
  | system
deriving DecidableEq

def EnforcementReason.value : EnforcementReason → String
  | .overdue => "overdue"
  | .fup => "fup"
  | .prepaid => "prepaid"
  | .admin => "admin"
  | .customerHold => "customer_hold"
  | .fraud => "fraud"
  | .system => "system"

inductive AccessRestrictionMode
  | hardReject
  | captive
deriving DecidableEq

/-- A lock on a subscription; a resolved lock says when and by whom. -/
structure EnforcementLock where
  id : ℕ
  subscriptionId : ℕ
  reason : EnforcementReason
  accessMode : AccessRestrictionMode
  source : String
  isActive : Bool
  resolvedAt : Option ℤ
  resolvedBy : Option String
  notes : Option String
  resolved : isActive = false → resolvedAt.isSome ∧ resolvedBy.isSome
deriving DecidableEq

instance : Row EnforcementLock := ⟨EnforcementLock.id⟩

def EnforcementLock.resolve (lock : EnforcementLock) (now : ℤ) (resolvedBy : String)
    (notes : Option String) : EnforcementLock :=
  { lock with
    isActive := false, resolvedAt := some now, resolvedBy := some resolvedBy, notes
    resolved := fun _ => ⟨rfl, rfl⟩ }

structure OfferCycles where
  versionPriceCycle : Option BillingCycle
  offerPriceCycle : Option BillingCycle
  offerCycle : Option BillingCycle
deriving DecidableEq

structure Subscription where
  id : ℕ
  subscriberId : ℕ
  status : SubscriptionStatus
  login : Option String
  billingCycle : Option BillingCycle
  offer : OfferCycles
  startAt : Option ℤ
  nextBillingAt : Option ℤ
  canceledAt : Option ℤ
  cancelReason : Option String
  updatedAt : ℤ
deriving DecidableEq

instance : Row Subscription := ⟨Subscription.id⟩

inductive SubscriberStatus
  | new
  | active
  | blocked
  | suspended
  | disabled
  | canceled
  | delinquent
deriving DecidableEq

inductive PartyRoleStatus
  | pending
  | active
  | suspended
  | ended
deriving DecidableEq

/-- The party of an account, with its role as a subscriber. -/
structure Party where
  merged : Bool
  subscriberRole : Option PartyRoleStatus
deriving DecidableEq

/-- An administrative fact about an account. -/
structure LifecycleOverride where
  status : SubscriberStatus
  reason : String
  source : String
  overriddenAt : ℤ
deriving DecidableEq

structure Subscriber where
  id : ℕ
  billingEnabled : Bool
  party : Option Party
  lifecycleOverride : Option LifecycleOverride
deriving DecidableEq

instance : Row Subscriber := ⟨Subscriber.id⟩

inductive ServiceOrderStatus
  | draft
  | submitted
  | scheduled
  | provisioning
  | active
  | canceled
  | failed
deriving DecidableEq

structure ServiceOrder where
  id : ℕ
  subscriptionId : Option ℕ
  salesOrderLineId : Option ℕ
  status : ServiceOrderStatus
deriving DecidableEq

instance : Row ServiceOrder := ⟨ServiceOrder.id⟩

structure SubscriptionAddOn where
  id : ℕ
  subscriptionId : ℕ
  endAt : Option ℤ
deriving DecidableEq

instance : Row SubscriptionAddOn := ⟨SubscriptionAddOn.id⟩

structure CommandContext where
  commandId : ℕ
  idempotencyKey : Option String
deriving DecidableEq

/-- The identity of a piece of evidence: what its digest is taken of. -/
inductive SourceId
  | idempotency (subscriptionId : ℕ) (key : String)
  | command (commandId : ℕ)
deriving DecidableEq

/-- The evidence of a transition; the fingerprint is that of all its fields but the clock's.  A
context made up for one command has an identity that no other evidence has. -/
structure SubscriptionLifecycleEvent where
  id : ℕ
  subscriptionId : ℕ
  fromStatus : SubscriptionStatus
  toStatus : SubscriptionStatus
  reason : String
  sourceId : Option SourceId
  effectiveAt : ℤ
  createdAt : ℤ
deriving DecidableEq

instance : Row SubscriptionLifecycleEvent := ⟨SubscriptionLifecycleEvent.id⟩

/-- A credit for the unused part of a billing period. -/
structure CancellationCredit where
  subscriptionId : ℕ
  amount : ℚ
deriving DecidableEq

structure LifecycleDb where
  subscriptions : Table Subscription
  subscribers : Table Subscriber
  locks : Table EnforcementLock
  events : Table SubscriptionLifecycleEvent
  serviceOrders : Table ServiceOrder
  addOns : Table SubscriptionAddOn
  credits : List CancellationCredit

def LifecycleDb.activeLocks (db : LifecycleDb) (subscriptionId : ℕ) : List EnforcementLock :=
  db.locks.rows.filter fun lock => lock.subscriptionId = subscriptionId ∧ lock.isActive

/-- The row of a subscription takes the values of its object. -/
def LifecycleDb.put (db : LifecycleDb) (now : ℤ) (subscription : Subscription) : LifecycleDb :=
  { db with
    subscriptions := db.subscriptions.update subscription.id
      (fun r => { subscription with id := r.id, updatedAt := now }) fun _ => rfl }

def LifecycleDb.resolveLocks (db : LifecycleDb) (now : ℤ) (resolvedBy : String)
    (p : EnforcementLock → Bool) (notes : Option String → Option String) : LifecycleDb :=
  { db with
    locks := db.locks.map
      (fun lock => if p lock then lock.resolve now resolvedBy (notes lock.notes) else lock)
      fun lock => by split_ifs <;> rfl }

def LifecycleDb.single (status : SubscriptionStatus) (nextBillingAt : Option ℤ)
    (serviceOrders : Table ServiceOrder) : LifecycleDb where
  subscriptions := ⟨[⟨0, 0, status, none, some .monthly, ⟨none, none, none⟩, none, nextBillingAt,
    none, none, 0⟩], 1, List.nodup_singleton 0, by simp [Row.id]⟩
  subscribers := ⟨[⟨0, true, none, none⟩], 1, List.nodup_singleton 0, by simp [Row.id]⟩
  locks := .empty
  events := .empty
  serviceOrders
  addOns := .empty
  credits := []

end DotmacSub.Lifecycle
