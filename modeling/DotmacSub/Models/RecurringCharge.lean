import DotmacSub.Models.PrepaidRenewal

/-!
# What a subscription costs

The rows of `models/catalog.py`, `models/subscriber.py` and `models/billing.py` that a recurring
charge is resolved from, with the two settings of the tax defaults.  Instants are microseconds.
-/

namespace DotmacSub.RecurringCharges

open Store Decimal
open PrepaidService (BillingCycle)

/-- A `NUMERIC(digits, s)` column. -/
structure Column (digits s : ℕ) extends Numeric s where
  small : |value| * 10 ^ s < 10 ^ digits
deriving DecidableEq

inductive PriceType
  | recurring
  | oneTime
  | usage
deriving DecidableEq

inductive DiscountType
  | percentage
  | percent
  | fixed
deriving DecidableEq

/-- A row of `offer_prices` or of `offer_version_prices`; the owner is the offer or the version. -/
structure CatalogPrice where
  id : ℕ
  ownerId : ℕ
  priceType : PriceType
  amount : Column 10 2
  currency : Option String
  billingCycle : Option BillingCycle
  isActive : Bool
  createdAt : ℤ
deriving DecidableEq

instance : Row CatalogPrice := ⟨CatalogPrice.id⟩

structure CatalogOffer where
  id : ℕ
  withVat : Bool
  vatPercent : Option (Column 5 2)
deriving DecidableEq

instance : Row CatalogOffer := ⟨CatalogOffer.id⟩

structure Subscriber where
  id : ℕ
  taxRateId : Option ℕ
deriving DecidableEq

instance : Row Subscriber := ⟨Subscriber.id⟩

structure Address where
  id : ℕ
  taxRateId : Option ℕ
deriving DecidableEq

instance : Row Address := ⟨Address.id⟩

instance : Row TaxRate := ⟨TaxRate.id⟩

structure Subscription where
  id : ℕ
  subscriberId : ℕ
  offerId : ℕ
  offerVersionId : Option ℕ
  serviceAddressId : Option ℕ
  billingCycle : Option BillingCycle
  unitPrice : Option (Column 12 2)
  discount : Bool
  discountValue : Option (Column 12 2)
  discountType : Option DiscountType
  discountStartAt : Option ℤ
  discountEndAt : Option ℤ
deriving DecidableEq

instance : Row Subscription := ⟨Subscription.id⟩

/-- The settings `billing.default_tax_rate_id` and `billing.default_tax_application`, with the
reading of an identifier. -/
structure TaxSettings where
  defaultTaxRateId : Option String
  defaultTaxApplication : Option String
  coerceUuid : String → Option ℕ

/-- The tables that a charge is resolved from.  The offer of a subscription is a foreign key. -/
structure ChargeTables where
  subscriptions : Table Subscription
  versionPrices : Table CatalogPrice
  offerPrices : Table CatalogPrice
  offers : Table CatalogOffer
  subscribers : Table Subscriber
  addresses : Table Address
  taxRates : Table TaxRate
  settings : TaxSettings
  offerStored : ∀ subscription ∈ subscriptions.rows,
    ∃ offer ∈ offers.rows, offer.id = subscription.offerId

end DotmacSub.RecurringCharges
