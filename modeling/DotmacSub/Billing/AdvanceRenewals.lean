import DotmacSub.Billing.RecurringCharges

/-!
# Advance renewal invoices

`advance_renewal_invoicing.py` stages the next period of a postpaid subscription from the preview
of `billing_automation.py`, ahead of the billing cycle.  It hands on the quantity and the unit price
of every component; the cycle hands on the amount as well.
-/

namespace DotmacSub.RecurringCharges

open Store Checked Decimal Payments

structure SubscriptionAddOn where
  id : ℕ
  subscriptionId : ℕ
  addOnId : ℕ
  quantity : Option ℕ
  startAt : Option ℤ
  endAt : Option ℤ
deriving DecidableEq

instance : Row SubscriptionAddOn := ⟨SubscriptionAddOn.id⟩

structure AddOn where
  id : ℕ
  ipIsPublic : Bool
  ipPrefixLength : Option ℕ
deriving DecidableEq

instance : Row AddOn := ⟨AddOn.id⟩

/-- What add-ons are billed from.  The owner of a price is the add-on. -/
structure AddOnTables where
  subscriptionAddOns : Table SubscriptionAddOn
  addOns : Table AddOn
  prices : Table CatalogPrice
  activeIpRouteCount : ℕ → ℕ → ℕ
  billIpAddonRequiresActiveRoute : Bool

structure ChargePeriod where
  start : ℤ
  stop : ℤ
  coveredStart : ℤ
  coveredEnd : ℤ

structure RecurringAddonCharge where
  subscriptionAddOnId : ℕ
  quantity : ℚ
  unitPrice : ℚ
  amount : ℚ
deriving DecidableEq

section Preview

variable (db : ChargeTables) (addons : AddOnTables) (subscription : Subscription)
  (period : ChargePeriod)

def addonRecurringPrice (addOnId : ℕ) : Option (ℚ × String) :=
  (addons.prices.rows.find? fun price => price.ownerId = addOnId && price.isCharged).map
    fun price => (roundMoney price.amount.value, (price.currency.filter (· ≠ "")).getD "NGN")

def billableQuantity (row : SubscriptionAddOn) (addOn : AddOn) : ℕ :=
  let quantity := (row.quantity.filter (· ≠ 0)).getD 1
  match addOn.ipPrefixLength with
  | some prefixLength =>
    if addons.billIpAddonRequiresActiveRoute && addOn.ipIsPublic then
      min quantity (addons.activeIpRouteCount subscription.subscriberId prefixLength)
    else quantity
  | none => quantity

/-- When an add-on is used within the service of a period. -/
def addonUsage (row : SubscriptionAddOn) : ℤ × ℤ :=
  (max period.coveredStart (row.startAt.getD period.start),
    min period.coveredEnd (row.endAt.getD period.stop))

/-- The share of a price that a time of use is charged for. -/
def ChargePeriod.prorated (full : ℚ) (usage : ℤ × ℤ) : ℚ :=
  proratedAmount full period.start period.stop usage.1 usage.2

/-- The loop body of `_resolve_recurring_addon_charges`. -/
def addonCharge (invoiceCurrency : String) (row : SubscriptionAddOn) :
    Option RecurringAddonCharge := do
  let addOn ← addons.addOns.get? row.addOnId
  let (unit, currency) ← addonRecurringPrice addons addOn.id
  let quantity := billableQuantity addons subscription row addOn
  let usage := addonUsage period row
  let amount := period.prorated (roundMoney (mul unit quantity)) usage
  if currency ≠ invoiceCurrency ∨ quantity = 0 ∨ usage.2 ≤ usage.1 ∨ amount ≤ 0 then none
  else some ⟨row.id, quantity, unit, amount⟩

def overlappingAddOns : List SubscriptionAddOn :=
  addons.subscriptionAddOns.rows.filter fun row => row.subscriptionId = subscription.id &&
    row.startAt.all (· < period.stop) && row.endAt.all (period.start < ·)

/-- What the add-ons of a subscription cost in a period. -/
def resolveRecurringAddonCharges (invoiceCurrency : String) : List RecurringAddonCharge :=
  (overlappingAddOns addons subscription period).filterMap
    (addonCharge addons subscription period invoiceCurrency)

/-- A component of a preview; the base service has no add-on.  The amounts are net, tax, gross. -/
structure ChargeComponent where
  subscriptionAddOnId : Option ℕ
  quantity : ℚ
  unitPrice : ℚ
  amounts : ℚ × ℚ × ℚ
deriving DecidableEq

def taxRatePercent (taxRateId : Option ℕ) : ℚ :=
  ((taxRateId.bind db.taxRates.get?).map (·.rate.value)).getD 0

/-- The charges of the add-ons, in the currency of the price of the subscription. -/
def addonCharges : List RecurringAddonCharge :=
  resolveRecurringAddonCharges addons subscription period
    ((((resolvePrice db subscription).bind (·.2.1)).filter (· ≠ "")).getD "NGN")

/-- `preview_postpaid_recurring_charge`: the base charge, and the components of the period. -/
def previewPostpaidRecurringCharge (effectiveAt : ℤ) :
    Except NoCharge (Charge × List ChargeComponent) := do
  let base ← postpaidBaseLine db subscription effectiveAt period.start period.stop
    period.coveredStart period.coveredEnd
  return (base, ⟨none, 1, base.unitPrice, (base.subtotal, base.taxTotal, base.total)⟩ ::
    (addonCharges db addons subscription period).map fun charge =>
      ⟨some charge.subscriptionAddOnId, charge.quantity, charge.unitPrice,
        lineAmounts charge.amount (taxRatePercent db base.taxRateId) base.taxApplication⟩)

end Preview

/-- What a line of an invoice says about money. -/
structure StagedLine where
  quantity : ℚ
  unitPrice : ℚ
  amount : ℚ
  taxRateId : Option ℕ
  taxApplication : TaxApplication

/-- `stage_system_line`: a line without an amount costs its quantity times the unit price. -/
def stageSystemLine (quantity unitPrice : ℚ) (amount : Option ℚ) (base : Charge) : StagedLine :=
  ⟨quantity, unitPrice, roundMoney (amount.getD (mul quantity unitPrice)), base.taxRateId,
    base.taxApplication⟩

/-- Net, tax and gross of a line. -/
def StagedLine.amounts (db : ChargeTables) (line : StagedLine) : ℚ × ℚ × ℚ :=
  lineAmounts line.amount (taxRatePercent db line.taxRateId) line.taxApplication

/-- The lines of `generate_advance_renewal_invoice`. -/
def advanceRenewalLines (preview : Charge × List ChargeComponent) : List StagedLine :=
  preview.2.map fun component =>
    stageSystemLine component.quantity component.unitPrice none preview.1

/-- The lines of `run_invoice_cycle` and `_bill_recurring_addons`. -/
def cycleLines (base : Charge) (charges : List RecurringAddonCharge) : List StagedLine :=
  stageSystemLine 1 base.unitPrice (some base.unitPrice) base :: charges.map fun charge =>
    stageSystemLine charge.quantity charge.unitPrice (some charge.amount) base

variable {db : ChargeTables} {addons : AddOnTables} {subscription : Subscription}
  {period : ChargePeriod} {effectiveAt : ℤ} {preview : Charge × List ChargeComponent}

lemma onGrid_proratedAmount {full : ℚ} {a b c d : ℤ} : OnGrid 2 (proratedAmount full a b c d) := by
  unfold proratedAmount
  dsimp only
  split_ifs
  · exact onGrid_zero
  · exact onGrid_roundMoney _

lemma ctx_proratedAmount {full : ℚ} {a b c d : ℤ} :
    ctx (proratedAmount full a b c d) = proratedAmount full a b c d := by
  unfold proratedAmount
  dsimp only
  split_ifs
  · exact ctx_zero
  · exact ctx_quantize_ctx _ _ _

lemma lineAmounts_eq_iff {a b rate : ℚ} {taxApplication : TaxApplication} (ha : OnGrid 2 a)
    (hb : OnGrid 2 b) :
    lineAmounts a rate taxApplication = lineAmounts b rate taxApplication ↔ a = b := by
  refine ⟨fun h => ?_, fun h => h ▸ rfl⟩
  unfold lineAmounts at h
  dsimp only at h
  rw [roundMoney_of_onGrid ha, roundMoney_of_onGrid hb] at h
  split_ifs at h
  · exact congrArg (·.2.2) h
  · exact congrArg (·.1) h

/-- The base line costs the rounded share of the price; it is staged as it was previewed. -/
lemma base_amounts {base : Charge} {a b c d : ℤ}
    (h : postpaidBaseLine db subscription effectiveAt a b c d = .ok base) (amount : Option ℚ)
    (hamount : ∀ x ∈ amount, x = base.unitPrice) :
    (stageSystemLine 1 base.unitPrice amount base).amounts db =
      (base.subtotal, base.taxTotal, base.total) := by
  unfold postpaidBaseLine at h
  split at h
  · cases h
  next catalogAmount _ _ _ =>
    dsimp only at h
    split at h
    · cases h
    · obtain rfl := Except.ok.inj h
      have hpaid : roundMoney (amount.getD (mul 1 (roundMoney (proratedAmount
          (effectiveUnitPrice subscription catalogAmount effectiveAt) a b c d)))) =
          proratedAmount (effectiveUnitPrice subscription catalogAmount effectiveAt) a b c d := by
        cases amount with
        | none => simp [mul, roundMoney_of_onGrid onGrid_proratedAmount, ctx_proratedAmount]
        | some x => simp [hamount x rfl, roundMoney_of_onGrid onGrid_proratedAmount]
      simp only [StagedLine.amounts, stageSystemLine, hpaid]
      rfl

lemma addonCharge_amount {currency : String} {row : SubscriptionAddOn}
    {charge : RecurringAddonCharge}
    (h : addonCharge addons subscription period currency row = some charge) :
    charge.amount = period.prorated (roundMoney (mul charge.unitPrice charge.quantity))
      (addonUsage period row) := by
  simp only [addonCharge, Option.bind_eq_bind, Option.bind_eq_some_iff] at h
  obtain ⟨addOn, -, ⟨unit, priceCurrency⟩, -, h⟩ := h
  dsimp only at h
  split_ifs at h
  obtain rfl := Option.some.inj h
  rfl

/-- **The billing cycle stages what was previewed; an advance invoice does so exactly if the share
of every charged add-on rounds to its whole price.** -/
theorem advanceRenewalLines_agree_iff
    (h : previewPostpaidRecurringCharge db addons subscription period effectiveAt = .ok preview) :
    ((advanceRenewalLines preview).map (StagedLine.amounts db) = preview.2.map (·.amounts) ↔
      ∀ row ∈ overlappingAddOns addons subscription period, ∀ charge ∈ addonCharge addons
        subscription period ((((resolvePrice db subscription).bind (·.2.1)).filter (· ≠ "")).getD
          "NGN") row,
        period.prorated (roundMoney (mul charge.unitPrice charge.quantity)) (addonUsage period row) =
          roundMoney (mul charge.unitPrice charge.quantity)) ∧
    (cycleLines preview.1 (addonCharges db addons subscription period)).map (StagedLine.amounts db) =
      preview.2.map (·.amounts) := by
  obtain ⟨base, hbase, hpreview⟩ := bind_eq_ok.mp h
  obtain rfl := pure_eq_ok.mp hpreview
  have hgrid : ∀ charge ∈ addonCharges db addons subscription period, OnGrid 2 charge.amount := by
    intro charge hcharge
    obtain ⟨row, -, hcharged⟩ := List.mem_filterMap.mp hcharge
    rw [addonCharge_amount hcharged]
    exact onGrid_proratedAmount
  constructor
  · simp only [advanceRenewalLines, List.map_cons, List.map_map, List.cons.injEq,
      base_amounts hbase none (by simp), true_and, List.map_inj_left, Function.comp_apply]
    constructor
    · intro hsame row hrow charge hcharged
      have hcharge := List.mem_filterMap.mpr ⟨row, hrow, hcharged⟩
      have hequal := (lineAmounts_eq_iff (onGrid_roundMoney _) (hgrid charge hcharge)).mp
        (hsame charge hcharge)
      rw [← addonCharge_amount hcharged, ← hequal, Option.getD_none, mul, mul, mul_comm]
    · intro hfull charge hcharge
      obtain ⟨row, hrow, hcharged⟩ := List.mem_filterMap.mp hcharge
      refine (lineAmounts_eq_iff (onGrid_roundMoney _) (hgrid charge hcharge)).mpr ?_
      rw [addonCharge_amount hcharged, hfull row hrow charge hcharged, Option.getD_none, mul, mul,
        mul_comm]
  · simp only [cycleLines, List.map_cons, List.map_map, List.cons.injEq,
      base_amounts hbase (some base.unitPrice) (by simp), true_and, List.map_inj_left,
      Function.comp_apply]
    intro charge hcharge
    simp only [StagedLine.amounts, stageSystemLine, Option.getD_some,
      roundMoney_of_onGrid (hgrid charge hcharge)]

def extraAddress (startAt : Option ℤ) : AddOnTables where
  subscriptionAddOns := Table.empty.insert (⟨·, 0, 0, none, startAt, none⟩) fun _ => rfl
  addOns := Table.empty.insert (⟨·, false, none⟩) fun _ => rfl
  prices := Table.empty.insert
    (⟨·, 0, .recurring, wholeUnits 10 1000 (by decide), none, none, true, 0⟩) fun _ => rfl
  activeIpRouteCount := fun _ _ => 0
  billIpAddonRequiresActiveRoute := false

def thirtyDays : ChargePeriod := ⟨0, 2592000000000, 0, 2592000000000⟩

def previewedHome (startAt : Option ℤ) : Except NoCharge (Charge × List ChargeComponent) :=
  previewPostpaidRecurringCharge twoHomes (extraAddress startAt)
    (twoHomes.subscriptions.rows.head (List.cons_ne_nil _ _)) thirtyDays 0

theorem wholePeriod_agrees : ∃ preview, previewedHome none = .ok preview ∧
    (advanceRenewalLines preview).map (StagedLine.amounts twoHomes) =
      preview.2.map (·.amounts) := by
  have hok : (previewedHome none).isOk = true := by decide +kernel
  cases h : previewedHome none with
  | error e => simp [h, Except.isOk, Except.toBool] at hok
  | ok preview =>
    refine ⟨preview, rfl, (advanceRenewalLines_agree_iff h).1.mpr ?_⟩
    decide +kernel

theorem halfPeriod_overbilled : ¬ ∀ (db : ChargeTables) (addons : AddOnTables)
    (subscription : Subscription) (period : ChargePeriod) (effectiveAt : ℤ)
    (preview : Charge × List ChargeComponent),
    previewPostpaidRecurringCharge db addons subscription period effectiveAt = .ok preview →
      (advanceRenewalLines preview).map (StagedLine.amounts db) = preview.2.map (·.amounts) := by
  intro hall
  have hok : (previewedHome (some 1296000000000)).isOk = true := by decide +kernel
  have hdiffer : ∀ preview ∈ (previewedHome (some 1296000000000)).toOption,
      (advanceRenewalLines preview).map (StagedLine.amounts twoHomes) ≠
        preview.2.map (·.amounts) := by
    decide +kernel
  cases h : previewedHome (some 1296000000000) with
  | error e => simp [h, Except.isOk, Except.toBool] at hok
  | ok preview => exact hdiffer preview (by rw [h]; rfl) (hall _ _ _ _ _ preview h)

end DotmacSub.RecurringCharges
