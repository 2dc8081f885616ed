import DotmacSub.Models.PrepaidService
import Mathlib.Data.List.Sort

/-!
# Billing anchors of prepaid service

`prepaid_service_renewals.py` projects the billing anchor of a subscription from the coverage that
survives; `service_entitlements.py` revokes what an invoice funded once it is no longer paid.
-/

namespace DotmacSub.PrepaidService

open Store ServiceExtensions

/-- How much authority the caller has to move an anchor backwards. -/
inductive BillingAnchorAuthority
  | fundingObservation
  | reviewedReconciliation
deriving DecidableEq

/-- One owner-computed anchor decision for a single subscription. -/
structure BillingAnchorProjection where
  subscriptionId : ℕ
  previousNextBillingAt : Option ℤ
  nextBillingAt : ℤ
  coverageEnd : Option ℤ
  changed : Bool
  retracted : Bool
  authority : BillingAnchorAuthority
deriving DecidableEq

def anchorTarget (coverageEnd : Option ℤ) (unfundedStart : ℤ) (authority : BillingAnchorAuthority)
    (invoiceStillFunds : Bool) (previous : Option ℤ) : ℤ :=
  let floor := (coverageEnd.map (max · unfundedStart)).getD unfundedStart
  match previous with
  | none => floor
  | some previous =>
    -- Nothing survives and an earlier unpaid period is already due.
    if coverageEnd = none ∧ previous < unfundedStart then previous
    else if authority = .fundingObservation ∧ invoiceStillFunds then max previous floor
    else floor

namespace PrepaidTables

def fundedBy (db : PrepaidTables) (invoiceId subscriptionId : ℕ) : List ServiceEntitlement :=
  db.entitlements.rows.filter fun row =>
    row.sourceInvoiceId = some invoiceId ∧ row.subscriptionId = subscriptionId

def grantEnds (db : PrepaidTables) (subscriptionId : ℕ) : List ℤ :=
  db.entries.rows.filterMap fun (entry : ServiceExtensionEntry) =>
    if entry.subscriptionId = subscriptionId ∧
        ∃ extension ∈ db.extensions.get? entry.extensionId, extension.status = .applied then
      entry.grantEndsAt
    else none

def coverageEnds (db : PrepaidTables) (subscriptionId : ℕ) : List ℤ :=
  (db.entitlements.rows.filter fun row =>
    row.subscriptionId = subscriptionId ∧ row.status = .active).map (·.endsAt) ++
      db.grantEnds subscriptionId

/-- The decision for one subscription; none if the invoice never funded it, or is another's. -/
def projection (db : PrepaidTables) (invoice : Invoice) (authority : BillingAnchorAuthority)
    (subscription : Subscription) : Option BillingAnchorProjection :=
  let rows := db.fundedBy invoice.id subscription.id
  match (rows.map (·.startsAt)).min? with
  | none => none
  | some unfundedStart =>
    if subscription.subscriberId ≠ invoice.accountId then none
    else
      let previous := subscription.nextBillingAt
      let coverageEnd := (db.coverageEnds subscription.id).max?
      let target := anchorTarget coverageEnd unfundedStart authority
        (rows.any (·.status = .active)) previous
      some ⟨subscription.id, previous, target, coverageEnd, previous ≠ some target,
        previous.any (target < ·), authority⟩

def reanchored (db : PrepaidTables) (invoice : Invoice) (authority : BillingAnchorAuthority)
    (subscription : Subscription) : Subscription :=
  match db.projection invoice authority subscription with
  | none => subscription
  | some projected => { subscription with nextBillingAt := some projected.nextBillingAt }

lemma reanchored_id (db : PrepaidTables) (invoice : Invoice) (authority : BillingAnchorAuthority)
    (subscription : Subscription) :
    (db.reanchored invoice authority subscription).id = subscription.id := by
  unfold reanchored
  split <;> rfl

/-- Recompute affected billing anchors from canonical entitlement evidence.  Every subscription is
decided from its own row, so they are written together; the evidence reference is only logged. -/
def projectPrepaidBillingAnchorForInvoice (db : PrepaidTables) (invoice : Invoice)
    (authority : BillingAnchorAuthority) : PrepaidTables × List BillingAnchorProjection :=
  ({ db with
      subscriptions := db.subscriptions.map (db.reanchored invoice authority)
        (db.reanchored_id invoice authority) },
    (db.subscriptions.rows.insertionSort (·.id ≤ ·.id)).filterMap
      (db.projection invoice authority))

/-- Revoke the entitlements an invoice funded, once it is no longer paid. -/
def revokePrepaidEntitlementsForUnpaidInvoice (db : PrepaidTables) (invoice : Invoice) :
    PrepaidTables :=
  if invoice.status = .paid then db
  else
    { db with
      entitlements := db.entitlements.map
        (fun row =>
          if row.sourceInvoiceId = some invoice.id ∧ row.status = .active then
            { row with status := .reversed }
          else row)
        fun row => by
          split_ifs
          · rfl
          · rfl }

def retractInvoice (accountId : ℕ) (state : PrepaidTables × List BillingAnchorProjection)
    (invoiceId : ℕ) : PrepaidTables × List BillingAnchorProjection :=
  match (state.1.invoices.get? invoiceId).filter (·.accountId = accountId) with
  | none => state
  | some invoice =>
    let (db, projections) :=
      state.1.projectPrepaidBillingAnchorForInvoice invoice .fundingObservation
    (db, state.2 ++ projections)

/-- Re-project anchors after a reversal; without invoices, those the payment ever touched. -/
def retractPrepaidBillingAnchorsAfterFundingReversal (db : PrepaidTables) (accountId : ℕ)
    (touchedByPayment invoiceIds : List ℕ) : PrepaidTables × List BillingAnchorProjection :=
  (if invoiceIds = [] then touchedByPayment else invoiceIds).foldl (retractInvoice accountId)
    (db, [])

def reopen (db : PrepaidTables) (reopened : InvoiceStatus) (invoiceId : ℕ) : PrepaidTables :=
  { db with
    invoices := db.invoices.update invoiceId ({ · with status := reopened }) fun _ => rfl }

/-- The payment of an invoice is reversed: the payment owner reopens the invoice and revokes what it
funded, and the anchors are retracted. -/
def reverseFunding (db : PrepaidTables) (reopened : InvoiceStatus) (invoiceId : ℕ) :
    PrepaidTables :=
  match db.invoices.get? invoiceId with
  | none => db
  | some invoice =>
    (((db.reopen reopened invoiceId).revokePrepaidEntitlementsForUnpaidInvoice
      { invoice with status := reopened }).retractPrepaidBillingAnchorsAfterFundingReversal
        invoice.accountId [invoiceId] [invoiceId]).1

end PrepaidTables

end DotmacSub.PrepaidService
