import Storefront.Product.Report
import Storefront.Shop.Basic

/-!
# The catalogue

The services for products: a submitted product is judged against the limits of the configuration
and the products that there are, a draft is stored, and a product is found by its number.

## Main definitions

* `Shop.judge`, `Shop.addProduct`, `Shop.findProduct` — the services
-/

namespace Storefront.Shop

/-- The limits for products. -/
def limits (shop : Shop) : Product.Limits where
  title := shop.config.titleMax
  sku := shop.config.skuMax

/-- Whether a product has a SKU. -/
def isTaken (sku : Text) : Service Bool := do
  return (← (Service.call (Store.productBySku sku)).guarded).isSome

/-- The report on a submitted product. What is no object has no fields to be asked for. -/
def judge (payload : Json) : Service Product.Report := do
  match payload with
  | .obj fields => Product.judge (← Service.shop).limits isTaken fields
  | value => .fail (.fault (.missingAttribute value (Text.ofString "get")))

/-- The record of a product that was stored. -/
def productRecord (product : Product) : Log.Record where
  level := .info
  source := .catalogue
  message := Text.ofString "Created product " ++ Text.ofNat product.id ++
    Text.ofString " (" ++ product.title ++ [(')' : CodePoint)]

/-- A product stored. Its price and its flag are converted once there is a connection and before a
statement is prepared. -/
def addProduct (draft : Product.Draft) : Service Product := do
  let product ← Service.guarded do
    Service.connected
    let (price, isActive) ← Service.ofFault draft.convert
    Service.call (Store.addProduct draft price isActive)
  -- The new row is read back by its number.
  Service.change (·.remember .productById)
  Service.record (productRecord product)
  return product

/-- The product with a number, if there is one. -/
def findProduct (id : Int) : Service (Option Product) :=
  (Service.call (Store.productById id)).guarded

end Storefront.Shop
