import Storefront.Number.Binary64

/-!
# Extended precision

The store computes with numbers of 64 significant bits where it turns text into doubles and doubles
into text. A result of each operation is rounded to the nearest such number, so the order of the
operations shows in the last digits. Only positive numbers and zero occur, and no exponent comes
near the bounds that the format has for it.

## Main definitions

* `Extended` — the type
* `Extended.ofRatio` — the nearest number to a quotient, ties to even
* `Extended.mul`, `Extended.div`, `Extended.add`, `Extended.sub` — the operations
* `Extended.pow10` — a power of ten by repeated squaring
* `Extended.toBinary64` — the nearest double

## Main results

* `Extended.ratio_ofNat` — a natural number of 64 bits is kept as it is
-/

namespace Storefront

/-- A number of 64 significant bits: `significand · 2 ^ exponent`. -/
structure Extended where
  significand : Nat
  exponent : Int
  deriving DecidableEq, Repr

namespace Extended

/-- How many bits a significand has. -/
def precision : Nat := 64

/-- The nearest number to a quotient, ties to even. -/
def ofRatio (num den : Nat) : Extended :=
  if num = 0 then ⟨0, 0⟩
  else
    let exponent := floorLog2 num den - (precision - 1)
    let significand :=
      roundHalfEven (num * Nat.pow 2 (-exponent).toNat) (den * Nat.pow 2 exponent.toNat)
    ⟨significand, exponent⟩

/-- A natural number that has no more bits than a significand. -/
def ofNat (n : Nat) : Extended := ⟨n, 0⟩

/-- The number that a double is; what is not finite is none. -/
def ofBinary64 : Binary64 → Extended
  | .finite _ significand exponent => ⟨significand, exponent⟩
  | _ => ⟨0, 0⟩

/-- The double nearest to `coefficient · 10 ^ exponent`, as a number. -/
def ofScientific (coefficient : Nat) (exponent : Int) : Extended :=
  ofBinary64 (.ofScientific false coefficient exponent)

/-- A number as a quotient. -/
def ratio (x : Extended) : Nat × Nat := Binary64.ratio x.significand x.exponent

theorem ratio_ofNat (n : Nat) : (ofNat n).ratio = (n, 1) := by
  simp [ofNat, ratio, Binary64.ratio]

/-- The product of two numbers. -/
def mul (x y : Extended) : Extended := ofRatio (x.ratio.1 * y.ratio.1) (x.ratio.2 * y.ratio.2)

/-- The quotient of a number by another one that is not zero. -/
def div (x y : Extended) : Extended := ofRatio (x.ratio.1 * y.ratio.2) (x.ratio.2 * y.ratio.1)

/-- The sum of two numbers. -/
def add (x y : Extended) : Extended :=
  ofRatio (x.ratio.1 * y.ratio.2 + y.ratio.1 * x.ratio.2) (x.ratio.2 * y.ratio.2)

/-- The difference of two numbers, of which the second is no greater than the first. -/
def sub (x y : Extended) : Extended :=
  ofRatio (x.ratio.1 * y.ratio.2 - y.ratio.1 * x.ratio.2) (x.ratio.2 * y.ratio.2)

/-- Whether a number is at most another one. -/
def isAtMost (x y : Extended) : Bool := x.ratio.1 * y.ratio.2 ≤ y.ratio.1 * x.ratio.2

/-- The whole part of a number. -/
def floor (x : Extended) : Nat := x.ratio.1 / x.ratio.2

/-- The double nearest to a number, with a sign. -/
def toBinary64 (negative : Bool) (x : Extended) : Binary64 :=
  .ofRatio negative x.ratio.1 x.ratio.2

/-- A product of some of the squares of squares of a number, chosen by the bits of `n`. -/
def powFrom (square product : Extended) (n : Nat) : Extended :=
  if n = 0 then product
  else powFrom (square.mul square) (if n % 2 = 1 then product.mul square else product) (n / 2)
termination_by n
decreasing_by omega

/-- A power of ten. -/
def pow10 (n : Nat) : Extended := powFrom (ofNat 10) (ofNat 1) n

end Extended

end Storefront
