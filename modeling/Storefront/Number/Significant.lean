import Storefront.Number.Extended
import Storefront.Number.Shortest

/-!
# A double in fifteen digits

A column of texts keeps a number as a numeral of at most fifteen significant digits. The number is
scaled to lie between one and ten, half a unit of the last digit is added, and the digits are taken
off one by one, all in extended precision, so the last of them is not always the nearest one. Zeros
at the end of the fraction are dropped but for one after the point. The numeral is written with a
point while its first digit stands for a power of ten from `10 ^ -4` to `10 ^ 14`, and with an
exponent of at least two digits otherwise. Different numbers may have one numeral.

## Main definitions

* `Extended.scaled` — a number between one and ten, and the power of ten that it was divided by
* `Binary64.significant` — the fifteen digits and the power of ten of the first of them
* `Binary64.numeral` — the numeral
-/

namespace Storefront

namespace Extended

/-- A scale multiplied by a factor as long as the number `x` is at least the product, and the power
of ten that it stands for. -/
def raise (x factor : Extended) (power : Nat) : (most : Nat) → Extended × Int → Extended × Int
  | 0, scale => scale
  | most + 1, (scale, exponent) =>
    let next := factor.mul scale
    if next.isAtMost x then raise x factor power most (next, exponent + power)
    else (scale, exponent)

/-- A number multiplied by a factor as long as it is below a bound, and the power of ten that it
was divided by. -/
def lift (bound factor : Extended) (power : Nat) : (most : Nat) → Extended × Int → Extended × Int
  | 0, scaled => scaled
  | most + 1, (x, exponent) =>
    if bound.isAtMost x then (x, exponent)
    else lift bound factor power most (x.mul factor, exponent - power)

/-- More steps than any scaling takes. -/
def scalingSteps : Nat := 64

/-- A positive number scaled to be at least one and below ten, in great steps first, and the power
of ten that it was divided by. -/
def scaled (x : Extended) : Extended × Int :=
  let scale := raise x (ofScientific 1 100) 100 scalingSteps (ofNat 1, 0)
  let scale := raise x (ofScientific 1 10) 10 scalingSteps scale
  let (scale, exponent) := raise x (ofNat 10) 1 scalingSteps scale
  let small := lift (ofScientific 1 (-8)) (ofScientific 1 8) 8 scalingSteps (x.div scale, exponent)
  lift (ofNat 1) (ofNat 10) 1 scalingSteps small

/-- The first digits of a number below ten. A digit that rounding has made a ten is written as the
character after nine. -/
def digits : (count : Nat) → Extended → Text
  | 0, _ => []
  | count + 1, x => .ofNat (0x30 + x.floor) :: digits count ((x.sub (ofNat x.floor)).mul (ofNat 10))

end Extended

namespace Binary64

/-- How many digits are kept. -/
def significantDigits : Nat := 15

/-- Half a unit of the last digit of a number between one and ten. It is the product of two doubles
and not the nearest double to the power of ten. -/
def halfUnit : Extended :=
  let (num, den) := (Extended.ofScientific 5 (-5)).ratio
  let (num', den') := (Extended.ofScientific 1 (-10)).ratio
  .ofBinary64 (.ofRatio false (num * num') (den * den'))

/-- The digits that are kept of a positive double and the power of ten of the first of them. -/
def significant (significand : Nat) (exponent : Int) : Text × Int :=
  let (x, power) := Extended.scaled ⟨significand, exponent⟩
  let x := x.add halfUnit
  let ten := Extended.ofNat 10
  if ten.isAtMost x then
    (Extended.digits significantDigits (x.mul (Extended.ofScientific 1 (-1))), power + 1)
  else (Extended.digits significantDigits x, power)

/-- Digits without the zeros at their end. -/
def withoutEndZeros (digits : Text) : Text :=
  (digits.reverse.dropWhile (· = ('0' : CodePoint))).reverse

/-- The numeral of a double. A zero has no sign, and NaN has no numeral. -/
def numeral : Binary64 → Option Text
  | nan => none
  | infinite negative => some (Decimal.signText negative ++ Text.ofString "Inf")
  | finite negative significand exponent =>
    if significand = 0 then some (Text.ofString "0.0")
    else
      let (digits, power) := significant significand exponent
      let digits := withoutEndZeros digits
      some <| Decimal.signText negative ++
        if -4 ≤ power ∧ power < significantDigits then positionalText digits (power + 1)
        else positionalText digits 1 ++ exponentText power

end Binary64

end Storefront
