import Storefront.Product.Basic

/-!
# Products to be stored

A draft holds what a product is to be made from: values of any type, since what a column makes of a
value is settled when the product is stored. Two fields are converted before that, whatever the
state of the store: the price becomes a double and the flag a truth value. What a draft leaves out
is filled in: a price of zero, an empty stock and an active product.

## Main definitions

* `Product.Amount` — a price as it was given
* `Product.Draft` — a product to be stored
* `Product.Draft.ofFields` — the draft that named fields describe
* `Product.Draft.convert` — the price and the flag of a draft
-/

namespace Storefront.Product

/-- A price as it was given. -/
inductive Amount
  | decimal (value : Decimal)
  | whole (value : Int)
  | binary (value : Binary64)
  /-- A list or an object, which is no price. -/
  | other (value : Json)

/-- The double that a price is kept as. -/
def Amount.toBinary64 : Amount → Except Fault Binary64
  | decimal (.nan _ true _) => .error .signalingPrice
  | decimal d => .ok (.ofDecimal d)
  | whole n =>
    match Binary64.ofInt n with
    | .infinite _ => .error .priceTooWide
    | x => .ok x
  | binary x => .ok x
  | other value => .error (.priceNotNumber value)

/-- The price of a field: a text is read as a decimal. -/
def Amount.ofField : Json → Except Fault (Option Amount)
  | .null => .ok none
  | .str t =>
    match Decimal.read t with
    | .ok d => .ok (some (.decimal d))
    | .error why => .error (.misreadDecimal why)
  | .int n => .ok (some (.whole n))
  | .bool b => .ok (some (.whole (if b then 1 else 0)))
  | .float x => .ok (some (.binary x))
  | value => .ok (some (.other value))

/-- The flag that a field is: a truth value, or a number equal to one. -/
def flagOfField (value : Json) : Except Fault Bool :=
  match value with
  | .bool b => .ok b
  | .int 0 => .ok false
  | .int 1 => .ok true
  | .float x =>
    if x.equals 0 then .ok false else if x.equals 1 then .ok true else .error (.notFlag value)
  | _ => .error (.notFlag value)

/-- A product to be stored. -/
structure Draft where
  title : Json
  sku : Json := .null
  description : Json := .null
  price : Option Amount := none
  stock : Json := .null
  isActive : Json := .null

/-- A value, or another one for null. -/
def orDefault (default value : Json) : Json :=
  match value with
  | .null => default
  | value => value

/-- The names of the fields that a draft may have. -/
def fieldNames : List Text :=
  ["title", "sku", "description", "price", "stock", "is_active"].map Text.ofString

/-- The draft that named fields describe. A price that is no decimal is refused first, then a name
that no field has, then a missing title. -/
def Draft.ofFields (fields : Json.Members) : Except Fault Draft := do
  let field (name : String) : Json := (fields.get? (Text.ofString name)).getD .null
  let price ← Amount.ofField (field "price")
  match fields.find? fun member => !fieldNames.contains member.1 with
  | some (name, _) => .error (.unexpectedField name)
  | none =>
    if (fields.get? (Text.ofString "title")).isNone then .error .missingTitle
    else
      return {
        title := field "title"
        sku := field "sku"
        description := field "description"
        price
        stock := field "stock"
        isActive := field "is_active" }

/-- The price and the flag of a draft; a price that is none is told of first. -/
def Draft.convert (draft : Draft) : Except Fault (Binary64 × Bool) := do
  let price ← (draft.price.getD (.whole 0)).toBinary64
  let isActive ← flagOfField (orDefault (.bool true) draft.isActive)
  return (price, isActive)

end Storefront.Product
