import DotmacSub.Billing.Common
import DotmacSub.Core.Lookups
import DotmacSub.Core.Text
import DotmacSub.Models.RecurringCharge
import Mathlib.Data.Prod.Lex

/-!
# Recurring charges

What one period of a subscription costs.  `billing_automation.py` asks for the rows of one
subscription; `prepaid_service_renewals.py` resolves the same charge for many of them from
dictionaries.
-/

namespace DotmacSub.RecurringCharges

open Store Decimal Payments Lookups
open PrepaidService (BillingCycle)
open Cadence (totalSeconds)

/-- The order of prices: creation, then identifier. -/
def Age : Type := ℤ ×ₗ ℕ

instance : LinearOrder Age := @Prod.Lex.instLinearOrder ℤ ℕ Int.instLinearOrder _

def CatalogPrice.age (price : CatalogPrice) : Age := toLex (price.createdAt, price.id)

def CatalogPrice.isCharged (price : CatalogPrice) : Bool :=
  price.priceType = .recurring && price.isActive

def newestPrices (prices : Table CatalogPrice) (ownerId : ℕ) : List CatalogPrice :=
  ((prices.rows.filter fun price => price.ownerId = ownerId && price.isCharged).insertionSort
    fun a b => b.age ≤ a.age).take 2

/-- `_resolve_price`: the amount, the currency and the cycle of the newest price of the version, or
else of the offer. -/
def resolvePrice (db : ChargeTables) (subscription : Subscription) :
    Option (ℚ × Option String × Option BillingCycle) :=
  let versionPrice := subscription.offerVersionId.bind fun versionId =>
    (newestPrices db.versionPrices versionId).head?
  let price := versionPrice.or (newestPrices db.offerPrices subscription.offerId).head?
  price.map fun price =>
    (price.amount.value, price.currency, subscription.billingCycle.or price.billingCycle)

def Subscription.isDiscounted (subscription : Subscription) (now : ℤ) : Bool :=
  subscription.discount && subscription.discountStartAt.all (· ≤ now) &&
    subscription.discountEndAt.all (now ≤ ·)

/-- `_effective_unit_price`: the negotiated price before that of the catalog, less the discount. -/
def effectiveUnitPrice (subscription : Subscription) (catalogAmount : ℚ) (now : ℤ) : ℚ :=
  let base := ((subscription.unitPrice.map (·.value)).filter (0 < ·)).getD catalogAmount
  let price := match subscription.discountValue with
    | none => base
    | some value =>
      if subscription.isDiscounted now then
        match subscription.discountType with
        | some .percentage | some .percent => sub base (div (mul base value.value) 100)
        | some .fixed => sub base value.value
        | none => base
      else base
  roundMoney (if price < 0 then 0 else price)

def activeTaxRateId (db : ChargeTables) (taxRateId : ℕ) : Bool :=
  (db.taxRates.get? taxRateId).any (·.isActive)

/-- `_default_tax_rate_id`: the configured rate, if it is active. -/
def defaultTaxRateId (db : ChargeTables) : Option ℕ :=
  let value := Text.strip (db.settings.defaultTaxRateId.getD "")
  if value = "" then none
  else ((db.settings.coerceUuid value).bind db.taxRates.get?).bind fun rate =>
    if rate.isActive then some rate.id else none

def defaultTaxApplication (db : ChargeTables) : TaxApplication :=
  let value := (Text.strip (db.settings.defaultTaxApplication.getD "")).toLower
  if value = "inclusive" then .inclusive else if value = "exempt" then .exempt else .exclusive

/-- The rates that a percentage of the catalog may be stored as: as itself, or as a fraction or a
percentage of it. -/
def rateCandidates (percent : ℚ) : List ℚ :=
  [percent, if 1 < percent then div percent 100 else mul percent 100]

/-- `_tax_rate_for_catalog_percent`, `_matching_catalog_tax_rate_id`: the first active rate of a
positive percentage. -/
def matchingTaxRateId (activeRates : List TaxRate) (vatPercent : Option ℚ) : Option ℕ :=
  (vatPercent.filter (0 < ·)).bind fun percent =>
    (activeRates.find? (·.rate.value ∈ rateCandidates percent)).map (·.id)

def activeRates (db : ChargeTables) : List TaxRate := db.taxRates.rows.filter (·.isActive)

def resolveOfferTaxRateId (db : ChargeTables) (offer : Option CatalogOffer) : Option ℕ :=
  match offer with
  | none => defaultTaxRateId db
  | some offer =>
    let vatPercent := offer.vatPercent.map (·.value)
    if 0 < vatPercent.getD 0 then
      (matchingTaxRateId (activeRates db) vatPercent).or (defaultTaxRateId db)
    else if offer.withVat then defaultTaxRateId db
    else none

/-- `_resolve_tax_rate_id`: the active rate of the service address, of the account, or of the
offer. -/
def resolveTaxRateId (db : ChargeTables) (subscription : Subscription) : Option ℕ :=
  let address := subscription.serviceAddressId.bind db.addresses.get?
  let subscriber := db.subscribers.get? subscription.subscriberId
  (((address.bind (·.taxRateId)).filter (activeTaxRateId db)).or
    ((subscriber.bind (·.taxRateId)).filter (activeTaxRateId db))).or
      (resolveOfferTaxRateId db (db.offers.get? subscription.offerId))

def proratedAmount (fullAmount : ℚ) (periodStart periodEnd usageStart usageEnd : ℤ) : ℚ :=
  let periodSeconds := totalSeconds (periodEnd - periodStart)
  let usageSeconds := totalSeconds (usageEnd - usageStart)
  if periodSeconds ≤ 0 ∨ usageSeconds ≤ 0 then 0
  else roundMoney (mul fullAmount (min (div usageSeconds periodSeconds) 1))

/-- `_line_amounts`: net, tax and gross. -/
def lineAmounts (amount taxRatePercent : ℚ) (taxApplication : TaxApplication) : ℚ × ℚ × ℚ :=
  let taxAmount := calculateTaxAmount amount taxRatePercent taxApplication
  if taxApplication = .inclusive then
    (sub (roundMoney amount) taxAmount, taxAmount, roundMoney amount)
  else (roundMoney amount, taxAmount, add (roundMoney amount) taxAmount)

structure Charge where
  unitPrice : ℚ
  subtotal : ℚ
  taxTotal : ℚ
  total : ℚ
  currency : String
  billingCycle : BillingCycle
  taxRateId : Option ℕ
  taxApplication : TaxApplication
deriving DecidableEq

/-- Why there is no base line. -/
inductive NoCharge
  | missingPrice
  | zeroAmount
deriving DecidableEq

/-- The base component of `preview_postpaid_recurring_charge`, which `run_invoice_cycle` bills. -/
def postpaidBaseLine (db : ChargeTables) (subscription : Subscription) (effectiveAt : ℤ)
    (periodStart periodEnd coveredStart coveredEnd : ℤ) : Except NoCharge Charge :=
  match resolvePrice db subscription with
  | none => .error .missingPrice
  | some (catalogAmount, currency, cycle) =>
    let amount := effectiveUnitPrice subscription catalogAmount effectiveAt
    let netOrGross := proratedAmount amount periodStart periodEnd coveredStart coveredEnd
    if netOrGross ≤ 0 then .error .zeroAmount
    else
      let taxRateId := resolveTaxRateId db subscription
      let taxRate := taxRateId.bind db.taxRates.get?
      let taxApplication := if taxRate.isSome then defaultTaxApplication db else .exempt
      let taxRatePercent := (taxRate.map (·.rate.value)).getD 0
      let amounts := lineAmounts netOrGross taxRatePercent taxApplication
      .ok ⟨roundMoney netOrGross, amounts.1, amounts.2.1, amounts.2.2,
        currencyCode (currency.getD ""), cycle.getD .monthly, taxRateId, taxApplication⟩

def newestPrice (prices : List CatalogPrice) : Option CatalogPrice :=
  prices.argmax CatalogPrice.age

/-- The dictionaries that a batch is resolved from. -/
structure ChargeLookups where
  versionPrices : ℕ → List CatalogPrice
  offerPrices : ℕ → List CatalogPrice
  offers : ℕ → Option CatalogOffer
  accounts : ℕ → Option Subscriber
  addresses : ℕ → Option Address
  activeRates : List TaxRate
  ratesById : ℕ → Option TaxRate
  defaultTaxRateId : Option ℕ
  taxApplication : TaxApplication

def chargeLookups (db : ChargeTables) (eligible : List Subscription) : ChargeLookups :=
  let versionIds := eligible.filterMap (·.offerVersionId)
  let offerIds := eligible.map (·.offerId)
  let accountIds := eligible.map (·.subscriberId)
  let addressIds := eligible.filterMap (·.serviceAddressId)
  { versionPrices := grouped (·.ownerId)
      (db.versionPrices.rows.filter fun price => price.ownerId ∈ versionIds && price.isCharged)
    offerPrices := grouped (·.ownerId)
      (db.offerPrices.rows.filter fun price => price.ownerId ∈ offerIds && price.isCharged)
    offers := byKey Row.id (db.offers.rows.filter (Row.id · ∈ offerIds))
    accounts := byKey Row.id (db.subscribers.rows.filter (Row.id · ∈ accountIds))
    addresses := byKey Row.id (db.addresses.rows.filter (Row.id · ∈ addressIds))
    activeRates := activeRates db
    ratesById := byKey Row.id (activeRates db)
    defaultTaxRateId := defaultTaxRateId db
    taxApplication := defaultTaxApplication db }

namespace ChargeLookups

variable (lookups : ChargeLookups) (subscription : Subscription)

def chargePrice : Option CatalogPrice :=
  (subscription.offerVersionId.bind fun versionId =>
    newestPrice (lookups.versionPrices versionId)).or
      (newestPrice (lookups.offerPrices subscription.offerId))

def offerTaxRateId : Option ℕ :=
  (lookups.offers subscription.offerId).bind fun offer =>
    let vatPercent := offer.vatPercent.map (·.value)
    let matching := matchingTaxRateId lookups.activeRates vatPercent
    if matching = none ∧ (offer.withVat ∨ 0 < vatPercent.getD 0) then lookups.defaultTaxRateId
    else matching

def isRate (taxRateId : Option ℕ) : Bool := (taxRateId.bind lookups.ratesById).isSome

def chargeTaxRateId : Option ℕ :=
  let ofAddress :=
    (subscription.serviceAddressId.bind lookups.addresses).bind (·.taxRateId)
  if lookups.isRate ofAddress then ofAddress
  else
    let ofAccount := (lookups.accounts subscription.subscriberId).bind (·.taxRateId)
    if lookups.isRate ofAccount then ofAccount else lookups.offerTaxRateId subscription

/-- One turn of the loop over a batch. -/
def charge (effectiveAt : ℤ) : Option Charge :=
  (lookups.chargePrice subscription).bind fun price =>
    let cycle := (subscription.billingCycle.or price.billingCycle).getD .monthly
    if cycle ≠ .monthly then none
    else
      let base := effectiveUnitPrice subscription price.amount.value effectiveAt
      let taxRate := (lookups.chargeTaxRateId subscription).bind lookups.ratesById
      let taxApplication := if taxRate = none then .exempt else lookups.taxApplication
      let taxAmount := match taxRate with
        | none => 0
        | some rate =>
          if lookups.taxApplication = .exempt then 0
          else calculateTaxAmount base rate.rate.value lookups.taxApplication
      let total := if taxApplication = .exclusive then roundMoney (add base taxAmount) else base
      let subtotal := if taxApplication = .inclusive then roundMoney (sub base taxAmount)
        else roundMoney base
      some ⟨roundMoney base, subtotal, roundMoney taxAmount, roundMoney total,
        currencyCode (price.currency.getD ""), cycle, taxRate.map (·.id), taxApplication⟩

end ChargeLookups

def Subscription.isEligible (subscription : Subscription) : Bool :=
  subscription.unitPrice.any (0 < ·.value)

def storeCharge (result : ℕ → Option (Option Charge)) (subscriptionId : ℕ) :
    Option Charge → ℕ → Option (Option Charge)
  | none => result
  | some charge => Function.update result subscriptionId (some (some charge))

/-- `_resolve_prepaid_monthly_charge_details`: the dictionary of the charges of a batch. -/
def resolvePrepaidMonthlyChargeDetails (db : ChargeTables) (subscriptions : List Subscription)
    (effectiveAt : ℤ) : ℕ → Option (Option Charge) :=
  let result := fun id => if id ∈ subscriptions.map (·.id) then some none else none
  let eligible := subscriptions.filter (·.isEligible)
  if eligible = [] then result
  else eligible.foldl (fun result subscription => storeCharge result subscription.id
    ((chargeLookups db eligible).charge subscription effectiveAt)) result

section Batch

variable {db : ChargeTables} {subscription : Subscription} {eligible : List Subscription}

lemma newestPrices_head? (prices : Table CatalogPrice) (ownerId : ℕ) :
    (newestPrices prices ownerId).head? = newestPrice
      (prices.rows.filter fun price => price.ownerId = ownerId && price.isCharged) := by
  rw [newestPrices, List.head?_take, if_neg (by decide), newestPrice]
  refine head?_insertionSort_eq fun a ha b hb hage => ?_
  have hids : a.id = b.id := congrArg (fun age => (ofLex age).2) hage
  exact Table.eq_of_id_eq (List.mem_of_mem_filter ha) (List.mem_of_mem_filter hb) hids

lemma grouped_prices_eq (prices : Table CatalogPrice) {ids : List ℕ} {ownerId : ℕ}
    (hid : ownerId ∈ ids) :
    newestPrice (grouped (·.ownerId)
      (prices.rows.filter fun price => price.ownerId ∈ ids && price.isCharged) ownerId) =
        (newestPrices prices ownerId).head? := by
  rw [newestPrices_head?, grouped_eq, List.filter_filter]
  congr 2
  funext price
  by_cases howner : price.ownerId = ownerId
  · simp [howner, hid]
  · simp [howner]

/-- **A batch finds the price** that the postpaid owner asks for. -/
lemma chargePrice_eq (hmem : subscription ∈ eligible) :
    (chargeLookups db eligible).chargePrice subscription =
      (subscription.offerVersionId.bind fun versionId =>
        (newestPrices db.versionPrices versionId).head?).or
          (newestPrices db.offerPrices subscription.offerId).head? := by
  have hversion : (subscription.offerVersionId.bind fun versionId =>
      newestPrice ((chargeLookups db eligible).versionPrices versionId)) =
        subscription.offerVersionId.bind fun versionId =>
          (newestPrices db.versionPrices versionId).head? := by
    cases hid : subscription.offerVersionId with
    | none => rfl
    | some versionId =>
      exact grouped_prices_eq db.versionPrices (List.mem_filterMap.mpr ⟨subscription, hmem, hid⟩)
  rw [ChargeLookups.chargePrice, hversion]
  congr 1
  exact grouped_prices_eq db.offerPrices (List.mem_map_of_mem hmem)

lemma ratesById_eq (taxRateId : ℕ) : (chargeLookups db eligible).ratesById taxRateId =
    (db.taxRates.get? taxRateId).filter (·.isActive) :=
  byKey_filter_eq db.taxRates (·.isActive) taxRateId

lemma isRate_eq (taxRateId : Option ℕ) : (chargeLookups db eligible).isRate taxRateId =
    taxRateId.any (activeTaxRateId db) := by
  cases taxRateId with
  | none => rfl
  | some taxRateId =>
    rw [ChargeLookups.isRate, Option.bind_some, ratesById_eq, Option.any_some, activeTaxRateId]
    cases db.taxRates.get? taxRateId with
    | none => rfl
    | some rate => cases hactive : rate.isActive <;> simp [Option.filter_some, hactive]

lemma matchingTaxRateId_none (vatPercent : Option ℚ) (h : ¬0 < vatPercent.getD 0) :
    matchingTaxRateId (activeRates db) vatPercent = none := by
  cases vatPercent with
  | none => rfl
  | some percent =>
    have hpercent : decide (0 < percent) = false := by simpa using h
    rw [matchingTaxRateId, Option.filter_some, hpercent]
    rfl

lemma offerTaxRateId_eq (hmem : subscription ∈ eligible)
    (hstored : subscription ∈ db.subscriptions.rows) :
    (chargeLookups db eligible).offerTaxRateId subscription =
      resolveOfferTaxRateId db (db.offers.get? subscription.offerId) := by
  have hoffers : (chargeLookups db eligible).offers subscription.offerId =
      db.offers.get? subscription.offerId :=
    byKey_mem_eq db.offers (List.mem_map_of_mem hmem)
  obtain ⟨offer, hoffer, hid⟩ := db.offerStored subscription hstored
  have hget : db.offers.get? subscription.offerId = some offer :=
    Table.get?_eq_some.mpr ⟨hoffer, hid⟩
  rw [ChargeLookups.offerTaxRateId, hoffers, hget, Option.bind_some, resolveOfferTaxRateId]
  change (let vatPercent := offer.vatPercent.map (·.value)
    let matching := matchingTaxRateId (activeRates db) vatPercent
    if matching = none ∧ (offer.withVat ∨ 0 < vatPercent.getD 0) then defaultTaxRateId db
    else matching) = _
  dsimp only
  by_cases hpositive : 0 < (offer.vatPercent.map (·.value)).getD 0
  · rw [if_pos hpositive]
    cases matchingTaxRateId (activeRates db) (offer.vatPercent.map (·.value)) with
    | none => rw [if_pos ⟨rfl, .inr hpositive⟩, Option.none_or]
    | some taxRateId => rw [if_neg (fun h => Option.some_ne_none _ h.1), Option.some_or]
  · rw [if_neg hpositive, matchingTaxRateId_none _ hpositive]
    simp [hpositive]

/-- **A batch finds the tax rate** that the postpaid owner asks for. -/
lemma chargeTaxRateId_eq (hmem : subscription ∈ eligible)
    (hstored : subscription ∈ db.subscriptions.rows) :
    (chargeLookups db eligible).chargeTaxRateId subscription =
      resolveTaxRateId db subscription := by
  have haddress : subscription.serviceAddressId.bind (chargeLookups db eligible).addresses =
      subscription.serviceAddressId.bind db.addresses.get? := by
    cases hid : subscription.serviceAddressId with
    | none => rfl
    | some addressId =>
      exact byKey_mem_eq db.addresses (List.mem_filterMap.mpr ⟨subscription, hmem, hid⟩)
  have haccount : (chargeLookups db eligible).accounts subscription.subscriberId =
      db.subscribers.get? subscription.subscriberId :=
    byKey_mem_eq db.subscribers (List.mem_map_of_mem hmem)
  have hfirst : ∀ taxRateId rest : Option ℕ,
      (if taxRateId.any (activeTaxRateId db) then taxRateId else rest) =
        (taxRateId.filter (activeTaxRateId db)).or rest := by
    intro taxRateId rest
    cases taxRateId with
    | none => rfl
    | some taxRateId => cases h : activeTaxRateId db taxRateId <;> simp [Option.filter_some, h]
  rw [ChargeLookups.chargeTaxRateId, resolveTaxRateId]
  simp only [isRate_eq, haddress, haccount, offerTaxRateId_eq hmem hstored, hfirst, Option.or_assoc]

lemma defaultTaxRateId_active {taxRateId : ℕ} (h : defaultTaxRateId db = some taxRateId) :
    activeTaxRateId db taxRateId = true := by
  unfold defaultTaxRateId at h
  dsimp only at h
  split_ifs at h
  obtain ⟨rate, hrate, hid⟩ := Option.bind_eq_some_iff.mp h
  obtain ⟨given, -, hget⟩ := Option.bind_eq_some_iff.mp hrate
  split_ifs at hid with hactive
  obtain rfl := Option.some.inj hid
  obtain ⟨hmem, -⟩ := Table.get?_eq_some.mp hget
  have hself : db.taxRates.get? rate.id = some rate := Table.get?_eq_some.mpr ⟨hmem, rfl⟩
  rw [activeTaxRateId, hself]
  exact hactive

lemma matchingTaxRateId_active {vatPercent : Option ℚ} {taxRateId : ℕ}
    (h : matchingTaxRateId (activeRates db) vatPercent = some taxRateId) :
    activeTaxRateId db taxRateId = true := by
  obtain ⟨percent, -, hfind⟩ := Option.bind_eq_some_iff.mp h
  obtain ⟨rate, hrate, rfl⟩ := Option.map_eq_some_iff.mp hfind
  obtain ⟨hmem, hactive⟩ := List.mem_filter.mp (List.mem_of_find?_eq_some hrate)
  have hself : db.taxRates.get? rate.id = some rate := Table.get?_eq_some.mpr ⟨hmem, rfl⟩
  rw [activeTaxRateId, hself]
  exact hactive

lemma resolveTaxRateId_active {taxRateId : ℕ}
    (h : resolveTaxRateId db subscription = some taxRateId) :
    activeTaxRateId db taxRateId = true := by
  unfold resolveTaxRateId at h
  dsimp only at h
  rcases Option.or_eq_some_iff.mp h with h | ⟨-, h⟩
  · rcases Option.or_eq_some_iff.mp h with h | ⟨-, h⟩
    · exact (Option.filter_eq_some_iff.mp h).2
    · exact (Option.filter_eq_some_iff.mp h).2
  · unfold resolveOfferTaxRateId at h
    cases hoffer : db.offers.get? subscription.offerId with
    | none =>
      rw [hoffer] at h
      exact defaultTaxRateId_active h
    | some offer =>
      rw [hoffer] at h
      dsimp only at h
      split_ifs at h with hpercent hvat
      · rcases Option.or_eq_some_iff.mp h with h | ⟨-, h⟩
        · exact matchingTaxRateId_active h
        · exact defaultTaxRateId_active h
      · exact defaultTaxRateId_active h

lemma chargeRate_eq (hmem : subscription ∈ eligible)
    (hstored : subscription ∈ db.subscriptions.rows) :
    ((chargeLookups db eligible).chargeTaxRateId subscription).bind
        (chargeLookups db eligible).ratesById =
      (resolveTaxRateId db subscription).bind db.taxRates.get? := by
  rw [chargeTaxRateId_eq hmem hstored]
  cases hid : resolveTaxRateId db subscription with
  | none => rfl
  | some taxRateId =>
    have hactive := resolveTaxRateId_active hid
    rw [activeTaxRateId] at hactive
    rw [Option.bind_some, Option.bind_some, ratesById_eq]
    cases hrate : db.taxRates.get? taxRateId with
    | none => rfl
    | some rate =>
      rw [hrate] at hactive
      exact Option.filter_some.trans (if_pos hactive)

end Batch

section Amounts

variable {base : ℚ}

lemma Column.abs_lt {digits : ℕ} (x : Column digits 2) : |x.value| < 10 ^ digits / 100 := by
  have hsmall := x.small
  rw [lt_div_iff₀ (by norm_num)]
  norm_num at hsmall
  exact hsmall

lemma abs_ctx_le (x : ℚ) : |ctx x| ≤ 2 * |x| := by
  have hclose := abs_ctx_sub_le x
  have htriangle := abs_sub_abs_le_abs_sub (ctx x) x
  have hdigits : |x| / 10 ^ 27 ≤ |x| := div_le_self (abs_nonneg x) (by norm_num)
  linarith

lemma abs_discounted_le {price value : ℚ} (hprice : |price| < 10 ^ 10)
    (hvalue : |value| < 10 ^ 10) :
    |sub price (div (mul price value) 100)| ≤ 10 ^ 19 ∧ |sub price value| ≤ 10 ^ 19 := by
  have hproduct : |price * value| ≤ 10 ^ 20 := by
    rw [abs_mul]
    calc |price| * |value| ≤ 10 ^ 10 * 10 ^ 10 :=
          mul_le_mul hprice.le hvalue.le (abs_nonneg _) (by norm_num)
      _ = 10 ^ 20 := by norm_num
  have hmul : |mul price value| ≤ 2 * 10 ^ 20 :=
    (abs_ctx_le _).trans (mul_le_mul_of_nonneg_left hproduct (by norm_num))
  have hdiv : |div (mul price value) 100| ≤ 4 * 10 ^ 18 := by
    have hctx := abs_ctx_le (mul price value / 100)
    rw [abs_div, abs_of_pos (show (0 : ℚ) < 100 by norm_num)] at hctx
    rw [div]
    linarith
  have hsub : ∀ less : ℚ, |less| ≤ 4 * 10 ^ 18 → |sub price less| ≤ 10 ^ 19 := by
    intro less hless
    have hctx := abs_ctx_le (price - less)
    have htriangle := abs_sub price less
    rw [sub]
    linarith
  exact ⟨hsub _ hdiv, hsub _ (hvalue.le.trans (by norm_num))⟩

/-- **A unit price is a small amount of money.** -/
lemma effectiveUnitPrice_bounds (subscription : Subscription) (catalogAmount : Column 10 2)
    (now : ℤ) :
    0 ≤ effectiveUnitPrice subscription catalogAmount.value now ∧
      effectiveUnitPrice subscription catalogAmount.value now ≤ 10 ^ 19 := by
  have hcatalog : |catalogAmount.value| < 10 ^ 10 :=
    catalogAmount.abs_lt.trans (by norm_num)
  have hcolumn : ∀ x : Column 12 2, |x.value| < 10 ^ 10 := fun x =>
    x.abs_lt.trans_eq (by norm_num)
  have hbase : |((subscription.unitPrice.map (·.value)).filter (0 < ·)).getD
      catalogAmount.value| < 10 ^ 10 := by
    cases subscription.unitPrice with
    | none => exact hcatalog
    | some unitPrice =>
      rw [Option.map_some, Option.filter_some]
      split_ifs
      · exact hcolumn unitPrice
      · exact hcatalog
  have hround : ∀ price : ℚ, |price| ≤ 10 ^ 19 →
      0 ≤ roundMoney (if price < 0 then 0 else price) ∧
        roundMoney (if price < 0 then 0 else price) ≤ 10 ^ 19 := by
    intro price hsmall
    have hgrid : OnGrid 2 (10 ^ 19 : ℚ) := ⟨10 ^ 21, by norm_num⟩
    have hle : (if price < 0 then 0 else price) ≤ 10 ^ 19 := by
      split_ifs
      · norm_num
      · exact (le_abs_self price).trans hsmall
    refine ⟨quantize_nonneg ?_, (quantize_mono hle).trans_eq (quantize_of_onGrid hgrid)⟩
    split_ifs with hneg
    · exact le_rfl
    · exact not_lt.mp hneg
  have hplain : ∀ price : ℚ, |price| < 10 ^ 10 → |price| ≤ 10 ^ 19 := fun price hprice =>
    hprice.le.trans (by norm_num)
  unfold effectiveUnitPrice
  dsimp only
  refine hround _ ?_
  cases subscription.discountValue with
  | none => exact hplain _ hbase
  | some value =>
    have hdiscounted := abs_discounted_le hbase (hcolumn value)
    dsimp only
    split_ifs
    · rcases subscription.discountType with - | type
      · exact hplain _ hbase
      · cases type with
        | percentage => exact hdiscounted.1
        | percent => exact hdiscounted.1
        | fixed => exact hdiscounted.2
    · exact hplain _ hbase

lemma onGrid_effectiveUnitPrice (subscription : Subscription) (catalogAmount : Column 10 2)
    (now : ℤ) :
    OnGrid 2 (effectiveUnitPrice subscription catalogAmount.value now) := onGrid_quantize

lemma proratedAmount_full {start end_ : ℤ} (hperiod : start < end_) (hbase : OnGrid 2 base)
    (hctx : ctx base = base) : proratedAmount  base start end_ start end_ = base := by
  have hseconds : 0 < totalSeconds (end_ - start) := by
    rw [totalSeconds]
    positivity
  have hratio : div (totalSeconds (end_ - start)) (totalSeconds (end_ - start)) = 1 := by
    rw [div, div_self hseconds.ne']
    exact ctx_of_onGrid (s := 0) ⟨1, by norm_num⟩ (by norm_num)
  unfold proratedAmount
  dsimp only
  rw [if_neg (by simp [hseconds]), hratio, min_self, mul, mul_one, hctx, roundMoney_of_onGrid hbase]

end Amounts

def asBaseLine : Option Charge → Except NoCharge Charge
  | none => .error .missingPrice
  | some charge => if charge.unitPrice ≤ 0 then .error .zeroAmount else .ok charge

variable {db : ChargeTables} {subscriptions eligible : List Subscription}
  {subscription : Subscription} {effectiveAt start end_ : ℤ}

def IsMonthly (db : ChargeTables) (subscription : Subscription) : Prop :=
  ∀ price ∈ resolvePrice db subscription, price.2.2.getD .monthly = .monthly

lemma lineAmounts_eq {base : ℚ} (hbase : OnGrid 2 base) (hctx : ctx base = base) (rate : ℚ)
    (taxApplication : TaxApplication) : lineAmounts base rate taxApplication =
      let tax := if taxApplication = .exempt then 0
        else calculateTaxAmount base rate taxApplication
      (if taxApplication = .inclusive then roundMoney (sub base tax) else roundMoney base,
        roundMoney tax,
        roundMoney (if taxApplication = .exclusive then roundMoney (add base tax) else base)) := by
  have htax : OnGrid 2 (calculateTaxAmount base rate taxApplication) :=
    onGrid_calculateTaxAmount _ rate taxApplication
  have hadd : OnGrid 2 (add base (calculateTaxAmount base rate taxApplication)) :=
    (hbase.add htax).ctx
  have hsub : OnGrid 2 (sub base (calculateTaxAmount base rate taxApplication)) :=
    (hbase.sub htax).ctx
  unfold lineAmounts
  cases taxApplication with
  | exclusive => simp [roundMoney_of_onGrid, hbase, htax, hadd]
  | inclusive => simp [roundMoney_of_onGrid, hbase, htax, hsub]
  | exempt => simp [roundMoney_of_onGrid, hbase, calculateTaxAmount, add, hctx]

lemma map_id_resolveTaxRateId : ((resolveTaxRateId db subscription).bind db.taxRates.get?).map
    (·.id) = resolveTaxRateId db subscription := by
  cases hid : resolveTaxRateId db subscription with
  | none => rfl
  | some taxRateId =>
    have hactive := resolveTaxRateId_active hid
    rw [activeTaxRateId] at hactive
    rw [Option.bind_some]
    cases hrate : db.taxRates.get? taxRateId with
    | none =>
      rw [hrate] at hactive
      cases hactive
    | some rate => exact congrArg some (Table.get?_eq_some.mp hrate).2

/-- **The base line is the charge of a batch.** -/
lemma postpaidBaseLine_eq (hmem : subscription ∈ eligible)
    (hstored : subscription ∈ db.subscriptions.rows) (hmonthly : IsMonthly db subscription)
    (hperiod : start < end_) :
    postpaidBaseLine db subscription effectiveAt start end_ start end_ =
      asBaseLine ((chargeLookups db eligible).charge subscription effectiveAt) := by
  have hprice : (chargeLookups db eligible).chargePrice subscription = _ := chargePrice_eq hmem
  have hrate : ((chargeLookups db eligible).chargeTaxRateId subscription).bind
      (chargeLookups db eligible).ratesById =
        (resolveTaxRateId db subscription).bind db.taxRates.get? := chargeRate_eq hmem hstored
  have hid : ((resolveTaxRateId db subscription).bind db.taxRates.get?).map (·.id) =
      resolveTaxRateId db subscription := map_id_resolveTaxRateId
  have hresolved : resolvePrice db subscription =
      ((chargeLookups db eligible).chargePrice subscription).map fun price =>
        (price.amount.value, price.currency, subscription.billingCycle.or price.billingCycle) := by
    rw [hprice]
    rfl
  unfold ChargeLookups.charge postpaidBaseLine
  cases hchosen : (chargeLookups db eligible).chargePrice subscription with
  | none =>
    rw [hresolved, hchosen]
    rfl
  | some price =>
    rw [hchosen, Option.map_some] at hresolved
    have hcycle := hmonthly _ hresolved
    dsimp only at hcycle
    rw [hresolved, hrate, Option.bind_some]
    dsimp only
    rw [hcycle, if_neg (not_not.mpr rfl)]
    have hbounds := effectiveUnitPrice_bounds subscription price.amount effectiveAt
    have hgrid := onGrid_effectiveUnitPrice subscription price.amount effectiveAt
    generalize effectiveUnitPrice subscription price.amount.value effectiveAt = base
      at hbounds hgrid ⊢
    have hctx : ctx base = base := by
      refine ctx_of_onGrid hgrid ?_
      rw [abs_of_nonneg hbounds.1]
      linarith [hbounds.2]
    rw [proratedAmount_full hperiod hgrid hctx, asBaseLine, roundMoney_of_onGrid hgrid]
    dsimp only
    by_cases hzero : base ≤ 0
    · rw [if_pos hzero, if_pos hzero]
    · rw [if_neg hzero, if_neg hzero, lineAmounts_eq hgrid hctx]
      cases hfound : (resolveTaxRateId db subscription).bind db.taxRates.get? with
      | none =>
        rw [hfound] at hid
        rw [← hid]
        simp [roundMoney_of_onGrid, hgrid]
      | some rate =>
        rw [hfound] at hid
        rw [← hid, if_neg (Option.some_ne_none rate), if_pos Option.isSome_some,
          roundMoney_of_onGrid hgrid]
        rfl

lemma charge_eq {others : List Subscription} (hmem : subscription ∈ eligible)
    (hothers : subscription ∈ others) (hstored : subscription ∈ db.subscriptions.rows) :
    (chargeLookups db eligible).charge subscription effectiveAt =
      (chargeLookups db others).charge subscription effectiveAt := by
  unfold ChargeLookups.charge
  rw [chargePrice_eq hmem, chargePrice_eq hothers, chargeRate_eq hmem hstored,
    chargeRate_eq hothers hstored]
  rfl

lemma foldl_charge_eq {charge : Subscription → Option Charge}
    (hsame : ∀ other ∈ eligible, other.id = subscription.id → other = subscription)
    {result : ℕ → Option (Option Charge)} (hresult : result subscription.id = some none ∨
      result subscription.id = some (charge subscription)) :
    eligible.foldl (fun result other => storeCharge result other.id (charge other)) result
        subscription.id =
      if subscription ∈ eligible then some (charge subscription) else result subscription.id := by
  induction eligible generalizing result with
  | nil => rfl
  | cons first eligible ih =>
    have hrest : ∀ other ∈ eligible, other.id = subscription.id → other = subscription :=
      fun other hother => hsame other (List.mem_cons_of_mem _ hother)
    rw [List.foldl_cons]
    by_cases hid : first.id = subscription.id
    · obtain rfl := hsame first List.mem_cons_self hid
      rw [if_pos List.mem_cons_self]
      have hstored : storeCharge result first.id (charge first) first.id = some (charge first) := by
        cases hcharge : charge first with
        | none =>
          rw [hcharge, or_self] at hresult
          exact hresult
        | some charged => exact Function.update_self _ _ _
      rw [ih hrest (.inr hstored), hstored, ite_self]
    · have hmem : subscription ∈ first :: eligible ↔ subscription ∈ eligible := by
        rw [List.mem_cons, or_iff_right]
        rintro rfl
        exact hid rfl
      have hkeep : storeCharge result first.id (charge first) subscription.id =
          result subscription.id := by
        cases charge first with
        | none => rfl
        | some charged => exact Function.update_of_ne (Ne.symm hid) _ _
      simp only [hmem]
      rw [← hkeep]
      exact ih hrest (by rwa [hkeep])

/-- **A batch gives each subscription its charge.** -/
lemma details_eq (hsubscriptions : ∀ other ∈ subscriptions, other ∈ db.subscriptions.rows)
    (hmem : subscription ∈ subscriptions) (heligible : subscription.isEligible) :
    resolvePrepaidMonthlyChargeDetails db subscriptions effectiveAt subscription.id =
      some ((chargeLookups db (subscriptions.filter (·.isEligible))).charge subscription
        effectiveAt) := by
  have hin : subscription ∈ subscriptions.filter (·.isEligible) :=
    List.mem_filter.mpr ⟨hmem, heligible⟩
  have hsame : ∀ other ∈ subscriptions.filter (·.isEligible), other.id = subscription.id →
      other = subscription := fun other hother hid =>
    Table.eq_of_id_eq (hsubscriptions other (List.mem_of_mem_filter hother))
      (hsubscriptions subscription hmem) hid
  unfold resolvePrepaidMonthlyChargeDetails
  rw [if_neg (List.ne_nil_of_mem hin), foldl_charge_eq hsame (.inl ?_), if_pos hin]
  exact if_pos (List.mem_map_of_mem hmem)

/-- **Prepaid and postpaid billing charge the same price**, in any batch. -/
theorem prepaid_charge_eq (hsubscriptions : ∀ other ∈ subscriptions, other ∈ db.subscriptions.rows)
    (hmem : subscription ∈ subscriptions) (heligible : subscription.isEligible)
    (hmonthly : IsMonthly db subscription) (hperiod : start < end_) (effectiveAt : ℤ) :
    ∃ charge,
      resolvePrepaidMonthlyChargeDetails db subscriptions effectiveAt subscription.id =
        some charge ∧
      resolvePrepaidMonthlyChargeDetails db [subscription] effectiveAt subscription.id =
        some charge ∧
      postpaidBaseLine db subscription effectiveAt start end_ start end_ = asBaseLine charge := by
  have hstored := hsubscriptions subscription hmem
  have hin : subscription ∈ subscriptions.filter (·.isEligible) :=
    List.mem_filter.mpr ⟨hmem, heligible⟩
  have halone : subscription ∈ [subscription].filter (·.isEligible) :=
    List.mem_filter.mpr ⟨List.mem_singleton_self _, heligible⟩
  refine ⟨_, details_eq hsubscriptions hmem heligible, ?_, postpaidBaseLine_eq hin hstored hmonthly
    hperiod⟩
  rw [details_eq (List.forall_mem_singleton.mpr hstored) (List.mem_singleton_self _) heligible,
    charge_eq halone hin hstored]

def wholeUnits (digits : ℕ) (units : ℤ) (h : |units| * 100 < 10 ^ digits) : Column digits 2 where
  value := units
  onGrid := ⟨units * 100, by push_cast; norm_num⟩
  small := by
    norm_num
    exact_mod_cast h

/-- Two subscriptions to one offer with 7.5% on top; the second has a discount of a quarter. -/
def twoHomes : ChargeTables where
  subscriptions := ⟨[⟨0, 0, 0, none, none, some .monthly, some (wholeUnits 12 10000 (by decide)),
      false, none, none, none, none⟩,
    ⟨1, 0, 0, none, none, none, some (wholeUnits 12 20000 (by decide)), true,
      some (wholeUnits 12 25 (by decide)), some .percentage, none, none⟩], 2, by decide, by decide⟩
  versionPrices := .empty
  offerPrices := ⟨[⟨0, 0, .recurring, wholeUnits 10 15000 (by decide), none, none, true, 0⟩], 1,
    by decide, by decide⟩
  offers := ⟨[⟨0, true, none⟩], 1, by decide, by decide⟩
  subscribers := ⟨[⟨0, some 0⟩], 1, by decide, by decide⟩
  addresses := .empty
  taxRates := ⟨[⟨0, none, ⟨15 / 2, 75000, by norm_num⟩, true⟩], 1, by decide, by decide⟩
  settings := ⟨none, none, fun _ => none⟩
  offerStored := by decide

/-- The homes are charged as their base lines; the first of them, beside the other. -/
theorem prepaid_charge_eq_twoHomes : ∃ subscription ∈ twoHomes.subscriptions.rows, ∃ charge,
    resolvePrepaidMonthlyChargeDetails twoHomes twoHomes.subscriptions.rows 0 subscription.id =
      some charge ∧
    resolvePrepaidMonthlyChargeDetails twoHomes [subscription] 0 subscription.id = some charge ∧
    postpaidBaseLine twoHomes subscription 0 0 2592000000000 0 2592000000000 =
      asBaseLine charge := by
  have heligible : ∀ subscription ∈ twoHomes.subscriptions.rows, subscription.isEligible = true ∧
      ((resolvePrice twoHomes subscription).all fun price =>
        price.2.2.getD .monthly = .monthly) = true := by
    decide +kernel
  obtain ⟨subscription, hmem⟩ := List.exists_mem_of_ne_nil twoHomes.subscriptions.rows (by decide)
  refine ⟨subscription, hmem, ?_⟩
  refine prepaid_charge_eq (fun _ hother => hother) hmem (heligible subscription hmem).1 ?_
    (by norm_num) 0
  intro price hprice
  have hall := (heligible subscription hmem).2
  rw [hprice] at hall
  exact of_decide_eq_true hall

end DotmacSub.RecurringCharges
