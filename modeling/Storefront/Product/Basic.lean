import Storefront.Record

/-!
# Users and products

The rows of the two tables, and what a product shows of itself.

## Main definitions

* `User`, `Product` — the rows
* `Stock` — what a product's stock is kept as
* `Product.Summary` — the members that a product shows, whether it is stored or not
* `Product.Summary.json`, `Product.Summary.label` — the forms in which it shows them
-/

namespace Storefront

/-- A user of the shop. -/
structure User where
  id : Nat
  name : Text
  email : Text
  deriving DecidableEq

/-- The short text of a user. -/
def User.label (user : User) : Text := Text.ofString "<User " ++ user.email ++ [('>' : CodePoint)]

/-- What a stock is kept as: an integer wherever it has the value of one, and otherwise the number
or the text that was given for it. -/
inductive Stock
  | whole (n : Int)
  | real (x : Binary64)
  | words (t : Text)
  deriving DecidableEq

/-- What a stock is shown as. -/
def Stock.json : Stock → Json
  | whole n => .int n
  | real x => .float x
  | words t => .str t

/-- A product of the shop. -/
structure Product where
  id : Nat
  title : Text
  sku : Option Text
  description : Option Text
  price : Binary64
  stock : Stock
  isActive : Bool
  deriving DecidableEq

namespace Product

/-- What a product shows of itself. One that was never stored shows what it was made from. -/
structure Summary where
  id : Json := .null
  title : Json := .null
  sku : Json := .null
  description : Json := .null
  price : Option Text := none
  stock : Json := .null
  isActive : Json := .null

/-- A text or nothing as a JSON value. -/
def optionalText : Option Text → Json
  | some t => .str t
  | none => .null

/-- What a stored product shows; its price with two places. -/
def summary (product : Product) : Summary where
  id := .int product.id
  title := .str product.title
  sku := optionalText product.sku
  description := optionalText product.description
  price := some product.price.cents
  stock := product.stock.json
  isActive := .bool product.isActive

/-- The price that a product is made from: a text is read as a decimal and stands for that. -/
def decimalPrice : Json → Except Fault Json
  | .str t =>
    match Decimal.read t with
    | .ok d => .ok (.str d.text)
    | .error why => .error (.misreadDecimal why)
  | value => .ok value

/-- What a product that is being made shows. -/
def Summary.ofRecord (record : Record) : Except Fault Summary := do
  match record.members.get? summaryName with
  | some value => .error (.notCallable value)
  | none =>
    let column (name : String) : Except Fault Json := record.read (Text.ofString name)
    return {
      id := ← column "id"
      title := ← column "title"
      sku := ← column "sku"
      description := ← column "description"
      price := match ← column "price" with
        | .null => none
        | price => some price.shown
      stock := ← column "stock"
      isActive := ← column "is_active" }

/-- What a product made from some fields shows before it is stored. A price that is no decimal is
refused first. -/
def Summary.ofFields (fields : Json.Members) : Except Fault Summary := do
  let name := Text.ofString "price"
  let fields ← match fields.get? name with
    | some given => pure (fields.set name (← decimalPrice given))
    | none => pure fields
  Summary.ofRecord (← Record.ofFields .products fields)

/-- The members that a product shows, in the order of their names. -/
def Summary.json (summary : Summary) : Json :=
  .obj [
    (Text.ofString "description", summary.description),
    (Text.ofString "id", summary.id),
    (Text.ofString "is_active", summary.isActive),
    (Text.ofString "price", optionalText summary.price),
    (Text.ofString "sku", summary.sku),
    (Text.ofString "stock", summary.stock),
    (Text.ofString "title", summary.title)]

/-- The short text of a product. -/
def Summary.label (summary : Summary) : Text :=
  Text.ofString "<Product " ++ summary.title.shown ++ [('>' : CodePoint)]

end Product

end Storefront
