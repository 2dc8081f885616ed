import DotmacSub.Billing.Cadence
import DotmacSub.Billing.PrepaidRenewals

/-!
# Settlements of lapsed invoices

`payments.py`: a prepaid service that has lapsed starts again on the local day its invoice is paid.
-/

namespace DotmacSub.PrepaidService

open Store Checked Payments ServiceExtensions Gregorian

/-- The billing calendar: the zone database, the application's time zone and the cycles of offers. -/
structure BillingCalendar where
  zoneInfo : String → Option Zone
  timezoneName : String
  billingCycle : ℕ → Option BillingCycle

def settlementCycleInterval : BillingCycle → IntervalUnit × ℤ
  | .daily => (.day, 1)
  | .weekly => (.week, 1)
  | .monthly => (.month, 1)
  | .quarterly => (.month, 3)
  | .annual => (.year, 1)

def settlementTerms (cycle : BillingCycle) (timezoneName : String) : Cadence.CadenceTerms where
  rateBasis := .fixedPerServicePeriod
  rateUnit := (settlementCycleInterval cycle).1
  rateQuantity := 1
  serviceIntervalUnit := (settlementCycleInterval cycle).1
  serviceIntervalCount := (settlementCycleInterval cycle).2
  invoiceIntervalUnit := (settlementCycleInterval cycle).1
  invoiceIntervalCount := (settlementCycleInterval cycle).2
  collectionTiming := .advance
  alignment := .contractAnniversary
  timezoneName := timezoneName
  endOfMonthRule := .clampToMonthEnd
  prorationPolicy := .none
  anchorDay := none

/-- The cycle that begins at the local midnight before a settlement. -/
def resolvePrepaidSettlementPeriod (calendar : BillingCalendar) (effectiveAt : ℤ)
    (cycle : BillingCycle) : Except Cadence.CadenceError Interval := do
  let cadence ← Cadence.BillingCadence.new calendar.zoneInfo
    (settlementTerms cycle calendar.timezoneName)
  let localEffectiveAt ← Cadence.inCalendar (cadence.zone.toLocal effectiveAt)
  let localStart ← Cadence.inCalendar (cadence.zone.toUtc (Wall.midnight localEffectiveAt.date))
  Cadence.servicePeriod cadence (.aware localStart) 0

/-- The prepaid subscription that all lines of an invoice are for, with these lines. -/
def invoiceSubscriptionLines (db : RenewalTables) (invoice : Invoice) :
    Option (Subscription × List InvoiceLine) :=
  let lines := invoice.lines.filter fun line => line.subscriptionId.isSome ∧ line.isActive
  match (lines.filterMap (·.subscriptionId)).eraseDups with
  | [subscriptionId] => ((db.subscriptions.get? subscriptionId).filter
      (·.billingMode = .prepaid)).map (·, lines)
  | _ => none

def baseSubscriptionInvoiceLines (lines : List InvoiceLine) : List InvoiceLine :=
  let baseLines := lines.filter (·.kind = some "base_subscription")
  if baseLines ≠ [] then baseLines
  else
    let billableLines := lines.filter (0 < roundMoney ·.amount)
    if billableLines.length = 1 then billableLines
    else if lines.length = 1 then lines
    else []

def prepaidInvoiceNeedsPaymentDateAnchor (subscription : Subscription) (invoice : Invoice)
    (settlementPeriodStart : ℤ) : Bool :=
  invoice.billingPeriodStart.any (· < settlementPeriodStart) ∧
    (subscription.status ∈ [.blocked, .suspended, .expired] ∨
      subscription.nextBillingAt.any (· ≤ settlementPeriodStart) ∨
      invoice.billingPeriodEnd.any (· ≤ settlementPeriodStart))

/-- What service extensions have added after the period of an invoice. -/
def prepaidExtensionDeltaAfterInvoice (invoice : Invoice) (subscription : Subscription) : ℤ :=
  match invoice.billingPeriodEnd, subscription.nextBillingAt with
  | some periodEnd, some nextBilling => max 0 (nextBilling - periodEnd)
  | _, _ => 0

/-- How a lapsed invoice is moved: its subscription, the lines that move and their new period. -/
structure SettlementReanchor where
  subscription : Subscription
  baseLines : List InvoiceLine
  period : Interval

/-- Whether a paid invoice is moved.  A payment without an effective time moves nothing. -/
def settlementReanchor (calendar : BillingCalendar) (db : RenewalTables) (invoice : Invoice)
    (effectiveAt : Option ℤ) : Except Refusal (Option SettlementReanchor) :=
  match invoice.billingPeriodStart, invoice.billingPeriodEnd, effectiveAt,
    invoiceSubscriptionLines db invoice with
  | some periodStart, some periodEnd, some effectiveAt, some (subscription, lines) => do
    let period ← (resolvePrepaidSettlementPeriod calendar effectiveAt
      ((calendar.billingCycle subscription.offerId).getD .monthly)).mapError
        fun error => .cadence error.code
    let baseLines := baseSubscriptionInvoiceLines lines
    pure (if prepaidInvoiceNeedsPaymentDateAnchor subscription invoice period.startsAt ∧
        baseLines ≠ [] ∧ ¬(periodStart = period.startsAt ∧ periodEnd = period.endsAt) then
      some ⟨subscription, baseLines, period⟩ else none)
  | _, _, _, _ => pure none

def InvoiceLine.reanchored (period : Interval) (line : InvoiceLine) : InvoiceLine :=
  { line with
    kind := some ((line.kind.filter (· ≠ "")).getD "base_subscription")
    billingPeriodStart := some period.startsAt
    billingPeriodEnd := some period.endsAt }

def Invoice.reanchored (reanchor : SettlementReanchor) (invoice : Invoice) : Invoice :=
  { invoice with
    billingPeriodStart := some reanchor.period.startsAt
    billingPeriodEnd := some reanchor.period.endsAt
    lines := invoice.lines.map fun line =>
      if line ∈ reanchor.baseLines then line.reanchored reanchor.period else line
    nodup := by
      rw [List.map_map, List.map_congr_left fun line _ => ?_]
      · exact invoice.nodup
      · rw [Function.comp_apply]
        split_ifs <;> rfl }

/-- A paid invoice whose service has lapsed is moved to the day of its payment, and the anchor to
the end of its new period. -/
def reanchorPaidPrepaidInvoiceIfLapsed (calendar : BillingCalendar) (db : RenewalTables)
    (invoice : Invoice) (effectiveAt : Option ℤ) : Except Refusal (RenewalTables × Invoice) := do
  match ← settlementReanchor calendar db invoice effectiveAt with
  | none => pure (db, invoice)
  | some reanchor => do
    let moved := { db with
      invoices := db.invoices.update invoice.id (Invoice.reanchored reanchor) fun _ => rfl }
    let anchored ← advanceAnchor moved reanchor.subscription (reanchor.period.endsAt +
        prepaidExtensionDeltaAfterInvoice invoice reanchor.subscription)
      .prepaidSettlementReanchor ("invoice:" ++ toString invoice.id ++ ":lapsed-settlement")
    pure (anchored, invoice.reanchored reanchor)

end DotmacSub.PrepaidService
