import Storefront.Fault

/-!
# Limits

The configuration sets how long the title and the SKU of a product may be. It may set any value, and
shows it as it is; but only a number limits anything, and a truth value does so in the place of one
or zero. A text cannot be measured against another value.

## Main definitions

* `Product.Limit` — what limits the length of a text
* `Product.Limit.read` — the limit that a value sets
* `Product.Limit.isExceededBy` — the lengths beyond a limit
-/

namespace Storefront.Product

/-- What limits the length of a text. -/
inductive Limit
  | flag (value : Bool)
  | whole (value : Int)
  | binary (value : Binary64)
  deriving DecidableEq, Repr

namespace Limit

/-- The limit that a value sets. -/
def read : Json → Except Fault Limit
  | .bool b => .ok (flag b)
  | .int n => .ok (whole n)
  | .float x => .ok (binary x)
  | value => .error (.notLimit value)

/-- Whether a length is beyond a limit; none is beyond NaN. -/
def isExceededBy (limit : Limit) (length : Nat) : Bool :=
  match limit with
  | flag b => b.toNat < length
  | whole n => n < length
  | binary x => x.isBelow length

/-- A limit as it is shown. -/
def text : Limit → Text
  | flag b => (Json.bool b).shown
  | whole n => Text.ofInt n
  | binary x => x.text

end Limit

end Storefront.Product
