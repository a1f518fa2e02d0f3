import Storefront.Number.Extended

/-!
# Doubles from digits

The double that a column makes of a text in digits. Of the digits only the first eighteen or
nineteen are looked at, so far as their number fits into 63 bits; those after them count as zeros.
What they write is multiplied or divided by a power of ten in extended precision, and the result is
rounded once more to a double, so it is not always the double nearest to the text.

## Main definitions

* `Scaled` — a significand and a power of ten
* `Scaled.ofDigits` — what is looked at of some digits
* `Scaled.reduced` — the power of ten brought nearer to zero
* `Scaled.toBinary64` — the double
-/

namespace Storefront

/-- A significand and the power of ten by which it is multiplied. -/
structure Scaled where
  significand : Nat
  exponent : Int
  deriving DecidableEq, Repr

namespace Scaled

/-- The greatest number of 63 bits. -/
def maxSignificand : Nat := 9223372036854775807

/-- From here on no further digit is looked at. -/
def digitBound : Nat := (maxSignificand - 9) / 10

/-- The number that the leading digits write after a number, and the digits that are not looked
at. -/
def leading (n : Nat) : List Nat → Nat × List Nat
  | [] => (n, [])
  | d :: rest => if n < digitBound then leading (10 * n + d) rest else (n, d :: rest)

/-- The greatest exponent that is told from others. -/
def exponentBound : Nat := 99999

/-- What greater exponents count as. -/
def greatExponent : Int := 10000

/-- What is looked at of the digits before and after a point and of an exponent. -/
def ofDigits (whole fraction : List Nat) (exponent : Int) : Scaled :=
  let (n, restOfWhole) := leading 0 whole
  let (n, restOfFraction) := leading n fraction
  let exponent :=
    if exponent.natAbs ≤ exponentBound then exponent
    else if exponent < 0 then -greatExponent
    else greatExponent
  ⟨n, exponent + restOfWhole.length - (fraction.length - restOfFraction.length : Nat)⟩

/-- A significand multiplied by ten up to `n` times, as far as it stays within 63 bits, and how
often that is still to be done. -/
def multiplied (significand : Nat) : (n : Nat) → Nat × Nat
  | 0 => (significand, 0)
  | n + 1 =>
    if significand < maxSignificand / 10 then multiplied (10 * significand) n
    else (significand, n + 1)

/-- A significand divided by ten up to `n` times, as far as there is no rest, and how often that is
still to be done. -/
def divided (significand : Nat) : (n : Nat) → Nat × Nat
  | 0 => (significand, 0)
  | n + 1 => if significand % 10 = 0 then divided (significand / 10) n else (significand, n + 1)

/-- The power of ten brought nearer to zero, as far as that changes nothing. -/
def reduced (x : Scaled) : Scaled :=
  if 0 ≤ x.exponent then
    let (significand, n) := multiplied x.significand x.exponent.toNat
    ⟨significand, n⟩
  else
    let (significand, n) := divided x.significand (-x.exponent).toNat
    ⟨significand, -n⟩

/-- A double multiplied or divided by the greatest power of ten that is one. -/
def stretched (isUp : Bool) : Binary64 → Binary64
  | .finite negative significand exponent =>
    let (num, den) := Binary64.ratio significand exponent
    let (num', den') := (Extended.ofScientific 1 308).ratio
    if isUp then .ofRatio negative (num * num') (den * den')
    else .ofRatio negative (num * den') (den * num')
  | x => x

/-- The double that a column makes of a significand and a power of ten. -/
def toBinary64 (negative : Bool) (x : Scaled) : Binary64 :=
  if x.significand = 0 then .zero negative
  else
    let reduced := x.reduced
    let significand := Extended.ofNat reduced.significand
    let isUp : Bool := 0 ≤ reduced.exponent
    let size := reduced.exponent.natAbs
    let times (n : Nat) : Binary64 :=
      let scale := Extended.pow10 n
      (if isUp then significand.mul scale else significand.div scale).toBinary64 negative
    if size = 0 then significand.toBinary64 negative
    else if size ≤ 307 then times size
    -- No power of ten beyond this one is a double.
    else if size < 342 then stretched isUp (times (size - 308))
    else if isUp then .infinite negative
    else .zero negative

end Scaled

end Storefront
