import DotmacSub.Models.UsageRating
import DotmacSub.Usage.Buckets

/-!
# Rating of usage

A rating run of `services/usage.py` sums the records of each subscription in a period and creates a
charge for what exceeds the allowance; posting a charge adds a line for it to an invoice.
-/

namespace DotmacSub.Usage

open Decimal Checked Gregorian

inductive RatingError
  | http (statusCode : ℕ) (detail : String)
  | issueEvidenceIncomplete
  | numericOverflow
deriving DecidableEq

/-- The subscriptions and the settings at the time of a run.  The quotient of seconds is that of
floats, as it is printed. -/
structure RatingContext where
  subscriptions : List RatedSubscription
  distinct : (subscriptions.map RatedSubscription.id).Nodup
  defaultCurrency : Option String
  defaultChargeStatus : Option UsageChargeStatus
  ratio : ℤ → ℤ → ℚ

def roundMoney (value : ℚ) : ℚ := quantize halfUp 2 value

structure UsageRatingRunRequest where
  periodStart : Option ℤ
  periodEnd : Option ℤ
  subscriptionId : Option ℕ
  dryRun : Bool

def monthStart (month : ℤ) : ℤ := (Wall.midnight (Date.inMonth month 1 le_rfl)).toMicros

def periodBounds (payload : UsageRatingRunRequest) (now : ℤ) : ℤ × ℤ :=
  let month := (Wall.ofMicros now).date.monthIndex
  (payload.periodStart.getD (monthStart month), payload.periodEnd.getD (monthStart (month + 1)))

def resolveAllowance (subscription : RatedSubscription) : Option UsageAllowance :=
  subscription.versionAllowance <|> subscription.offerAllowance

/-- The included volume and the cap of the overage, for the part of the period in which the
subscription is active. -/
def prorateAllowance (context : RatingContext) (subscription : RatedSubscription)
    (periodStart periodEnd : ℤ) : ℚ × Option ℚ :=
  match resolveAllowance subscription with
  | none => (0, none)
  | some allowance =>
    let included : ℚ := (allowance.includedGb.getD 0 : ℤ)
    let cap : Option ℚ := (allowance.overageCapGb.filter (· ≠ 0)).map Int.cast
    if subscription.startAt = none ∧ subscription.endAt = none then (included, cap)
    else
      let activeStart := max (subscription.startAt.getD periodStart) periodStart
      let activeEnd := min (subscription.endAt.getD periodEnd) periodEnd
      let ratio := context.ratio (max (activeEnd - activeStart) 0)
        (max (periodEnd - periodStart) 1000000)
      if ratio ≤ 0 then (0, cap.map fun _ => 0)
      else (roundGb (mul included ratio), cap.map fun cap => roundGb (mul cap ratio))

def UsageRecord.Within (record : UsageRecord) (subscriptionId : ℕ) (periodStart periodEnd : ℤ) :
    Prop :=
  record.subscriptionId = subscriptionId ∧ periodStart ≤ record.recordedAt ∧
    record.recordedAt < periodEnd

instance (record : UsageRecord) (subscriptionId : ℕ) (periodStart periodEnd : ℤ) :
    Decidable (record.Within subscriptionId periodStart periodEnd) := by
  unfold UsageRecord.Within
  infer_instance

def periodTotal (records : List UsageRecord) (subscriptionId : ℕ) (periodStart periodEnd : ℤ) : ℚ :=
  ((records.filter (·.Within subscriptionId periodStart periodEnd)).map UsageRecord.totalGb).sum

def UsageCharge.Covers (charge : UsageCharge) (subscriptionId : ℕ) (periodStart periodEnd : ℤ) :
    Prop :=
  charge.subscriptionId = subscriptionId ∧ charge.periodStart = periodStart ∧
    charge.periodEnd = periodEnd

instance (charge : UsageCharge) (subscriptionId : ℕ) (periodStart periodEnd : ℤ) :
    Decidable (charge.Covers subscriptionId periodStart periodEnd) := by
  unfold UsageCharge.Covers
  infer_instance

def billableVolume (totalGb includedGb : ℚ) (capGb : Option ℚ) : ℚ :=
  let billableGb := max (sub totalGb includedGb) 0
  match capGb with
  | some cap => if cap < billableGb then cap else billableGb
  | none => billableGb

/-- The charge of one subscription in a period. -/
def chargeFor (context : RatingContext) (records : List UsageRecord) (periodStart periodEnd : ℤ)
    (runAt : ℤ) (id : ℕ) (subscription : RatedSubscription) : UsageCharge :=
  let totalGb := roundGb (periodTotal records subscription.id periodStart periodEnd)
  let allowance := prorateAllowance context subscription periodStart periodEnd
  let includedGb := roundGb allowance.1
  let billableGb := billableVolume totalGb includedGb allowance.2
  let overageRate := (resolveAllowance subscription).bind UsageAllowance.overageRate
  let rate := overageRate.getD 0
  let status :=
    if overageRate = none then .needsReview else context.defaultChargeStatus.getD .staged
  { id
    subscriptionId := subscription.id
    subscriberId := subscription.subscriberId
    invoiceLineId := none
    periodStart
    periodEnd
    totalGb
    includedGb
    billableGb := roundGb billableGb
    unitPrice := rate
    amount := if billableGb = 0 then 0 else roundMoney (mul billableGb rate)
    currency := context.defaultCurrency.getD "NGN"
    status := if billableGb = 0 then .skipped else status
    notes := if overageRate = none then some "Missing usage allowance or overage rate" else none
    ratedAt := runAt }

def UsageCharge.Fits (charge : UsageCharge) : Prop :=
  |charge.totalGb| < 10 ^ 8 ∧ |charge.includedGb| < 10 ^ 8 ∧ |charge.billableGb| < 10 ^ 8 ∧
    |charge.unitPrice| < 10 ^ 6 ∧ |charge.amount| < 10 ^ 10

instance : DecidablePred UsageCharge.Fits := fun _ => by
  unfold UsageCharge.Fits
  infer_instance

def scanned (context : RatingContext) (payload : UsageRatingRunRequest) : List RatedSubscription :=
  context.subscriptions.filter fun subscription =>
    ∀ id ∈ payload.subscriptionId, subscription.id = id

def unrated (charges : List UsageCharge) (periodStart periodEnd : ℤ)
    (subscriptions : List RatedSubscription) : List RatedSubscription :=
  subscriptions.filter fun subscription =>
    ∀ charge ∈ charges, ¬ charge.Covers subscription.id periodStart periodEnd

/-- A rating run.  A dry run computes the charges and adds none. -/
def rate (context : RatingContext) (records : List UsageRecord) (db : RatingDb)
    (payload : UsageRatingRunRequest) (now : ℤ) : Except RatingError RatingDb := do
  let (periodStart, periodEnd) := periodBounds payload now
  let subscriptions := scanned context payload
  let toRate := unrated db.charges periodStart periodEnd subscriptions
  let charges := toRate.mapIdx fun i =>
    chargeFor context records periodStart periodEnd now (db.charges.length + i)
  if payload.dryRun then return db
  ensure (∀ charge ∈ charges, charge.Fits) .numericOverflow
  let run : UsageRatingRun :=
    { runAt := now, periodStart, periodEnd
      subscriptionsScanned := subscriptions.length
      chargesCreated := charges.length
      skipped := subscriptions.length - toRate.length }
  return { db with charges := db.charges ++ charges, runs := db.runs ++ [run] }

/-- What posting takes from the invoices: the status that new ones get, and the status in which the
recalculation of its totals leaves an invoice. -/
structure PostingContext where
  defaultInvoiceStatus : Option InvoiceStatus
  recalculated : RatingDb → UsageInvoice → InvoiceStatus

/-- The invoice of the account for a period, a new one if there is none.  A new invoice cannot be
issued at once, but its draft has been added when that is refused. -/
def resolveOrCreateInvoice (context : PostingContext) (db : RatingDb) (charge : UsageCharge) :
    RatingDb × Except RatingError UsageInvoice :=
  match db.invoices.find? fun invoice => invoice.accountId = charge.subscriberId ∧
      invoice.billingPeriodStart = some charge.periodStart ∧
      invoice.billingPeriodEnd = some charge.periodEnd ∧ invoice.isActive with
  | some invoice =>
    if invoice.currency ≠ charge.currency then (db, .error (.http 400 "Invoice currency mismatch"))
    else (db, .ok invoice)
  | none =>
    let status := context.defaultInvoiceStatus.getD .draft
    if status ≠ .draft ∧ status ≠ .issued then
      (db, .error (.http 409 "System invoice creation starts only as draft or issued"))
    else
      let invoice : UsageInvoice :=
        { id := db.invoices.length, accountId := charge.subscriberId, status := .draft
          currency := charge.currency, billingPeriodStart := some charge.periodStart
          billingPeriodEnd := some charge.periodEnd, isActive := true, discounted := false }
      let created := { db with invoices := db.invoices ++ [invoice] }
      if status = .issued then (created, .error .issueEvidenceIncomplete)
      else (created, .ok invoice)

def targetInvoice (context : PostingContext) (db : RatingDb) (charge : UsageCharge)
    (invoiceId : Option ℕ) : RatingDb × Except RatingError UsageInvoice :=
  match invoiceId with
  | none => resolveOrCreateInvoice context db charge
  | some id =>
    match db.invoices.find? (·.id = id) with
    | none => (db, .error (.http 404 "Invoice not found"))
    | some invoice =>
      if invoice.accountId ≠ charge.subscriberId then
        (db, .error (.http 400 "Invoice not for account"))
      else (db, .ok invoice)

def stageSystemLine (db : RatingDb) (charge : UsageCharge) (invoice : UsageInvoice) :
    Except RatingError UsageLine := do
  ensure invoice.isActive (.http 404 "Invoice not found")
  ensure (invoice.status = .draft ∨ invoice.status = .issued)
    (.http 409 "System lines may be added only to draft or issued invoices")
  ensure (¬ invoice.discounted)
    (.http 409 "Invoice lines cannot change after a discount is applied")
  return { id := db.lines.length, invoiceId := invoice.id, subscriptionId := charge.subscriptionId
           description := "Usage overage", quantity := 1, unitPrice := roundMoney charge.amount
           amount := roundMoney charge.amount, chargeId := charge.id }

def UsageCharge.posted (charge : UsageCharge) (lineId : ℕ) : UsageCharge :=
  { charge with invoiceLineId := some lineId, status := .posted }

def recordPosting (context : PostingContext) (db : RatingDb) (charge : UsageCharge)
    (invoice : UsageInvoice) (line : UsageLine) : RatingDb :=
  let written : RatingDb := { db with
    lines := db.lines ++ [line]
    charges := db.charges.map fun row => if row.id = charge.id then row.posted line.id else row }
  { written with
    invoices := written.invoices.map fun row =>
      if row.id = invoice.id then { row with status := context.recalculated written row }
      else row }

/-- Post a charge.  What was written before a refusal is returned with it. -/
def post (context : PostingContext) (db : RatingDb) (chargeId : ℕ) (invoiceId : Option ℕ) :
    RatingDb × Except RatingError Unit :=
  match db.charges.find? (·.id = chargeId) with
  | none => (db, .error (.http 404 "Usage charge not found"))
  | some charge =>
    if charge.status = .posted then (db, .ok ())
    else if charge.status = .needsReview then (db, .error (.http 400 "Charge requires review"))
    else if charge.subscriberId ∉ db.subscribers then
      (db, .error (.http 404 "Subscriber not found"))
    else
      match targetInvoice context db charge invoiceId with
      | (db, .error e) => (db, .error e)
      | (db, .ok invoice) =>
        match stageSystemLine db charge invoice with
        | .error e => (db, .error e)
        | .ok line => (recordPosting context db charge invoice line, .ok ())

/-- The state that a posting commits; a refused one is rolled back. -/
def committed : RatingDb × Except RatingError Unit → Except RatingError RatingDb
  | (db, .ok ()) => .ok db
  | (_, .error e) => .error e

/-- Post the staged charges of a period. -/
def postBatch (context : PostingContext) (db : RatingDb) (periodStart periodEnd : ℤ)
    (accountId : Option ℕ) : Except RatingError RatingDb :=
  let charges := db.charges.filter fun charge =>
    charge.periodStart = periodStart ∧ charge.periodEnd = periodEnd ∧ charge.status = .staged ∧
      ∀ account ∈ accountId, charge.subscriberId = account
  charges.foldlM (fun db charge => committed (post context db charge.id none)) db

def bulkPostOne (context : PostingContext) (state : RatingDb × ℕ) (chargeId : ℕ) : RatingDb × ℕ :=
  match post context state.1 chargeId none with
  | (db, .ok ()) => (db, state.2 + 1)
  | (db, .error _) => (db, state.2)

/-- Post charges by identifier; refused ones are skipped. -/
def bulkPostByIds (context : PostingContext) (db : RatingDb) (chargeIds : List ℕ) : RatingDb :=
  let result := chargeIds.foldl (bulkPostOne context) (db, 0)
  if result.2 = 0 then db else result.1

/-- The rating runs and the postings. -/
inductive RatingCommand
  | rate (context : RatingContext) (payload : UsageRatingRunRequest) (now : ℤ)
  | post (context : PostingContext) (chargeId : ℕ) (invoiceId : Option ℕ)
  | postBatch (context : PostingContext) (periodStart periodEnd : ℤ) (accountId : Option ℕ)
  | bulkPostByIds (context : PostingContext) (chargeIds : List ℕ)
  | setInvoices (invoices : List UsageInvoice)

/-- One operation; the last is what other writers of invoices may do in between. -/
def ratingStep (records : List UsageRecord) (db : RatingDb) :
    RatingCommand → Except RatingError RatingDb
  | .rate context payload now => rate context records db payload now
  | .post context chargeId invoiceId => committed (post context db chargeId invoiceId)
  | .postBatch context periodStart periodEnd accountId =>
    postBatch context db periodStart periodEnd accountId
  | .bulkPostByIds context chargeIds => .ok (bulkPostByIds context db chargeIds)
  | .setInvoices invoices => .ok { db with invoices }

end DotmacSub.Usage
