import Storefront.Number.Decimal

/-!
# Double-precision numbers

The numbers of the binary64 format, kept exactly: a finite one is a sign, a significand below
`2 ^ 53` and a power of two. Everything is computed in natural numbers, so each rounding below is a
statement about integers.

## Main definitions

* `Binary64` — the type
* `roundHalfEven` — a quotient rounded to the nearest integer, ties to even
* `Binary64.ofRatio`, `Binary64.ofDecimal` — the nearest double, ties to even, with overflow to an
  infinity
* `Binary64.cents` — the text with two places
* `Binary64.truncate?` — the integer part
* `Binary64.equals`, `Binary64.isBelow` — comparisons with an integer

## Main results

* `le_roundHalfEven`, `roundHalfEven_le` — rounding moves a quotient by at most half a unit
-/

namespace Storefront

/-- The quotient of two numbers, rounded to the nearest integer; a tie goes to the even one. -/
def roundHalfEven (num den : Nat) : Nat :=
  let quotient := num / den
  let rest := num % den
  if 2 * rest < den then quotient
  else if den < 2 * rest then quotient + 1
  else quotient + quotient % 2

/-- A rounded quotient lies at most half a unit below the exact one. -/
theorem le_roundHalfEven {num den : Nat} (h : 0 < den) :
    2 * num ≤ 2 * (den * roundHalfEven num den) + den := by
  have division := Nat.div_add_mod num den
  have small := Nat.mod_lt num h
  unfold roundHalfEven
  dsimp only
  split
  · omega
  · split
    · rw [Nat.mul_add]; omega
    · rcases Nat.mod_two_eq_zero_or_one (num / den) with even | odd
      · rw [even, Nat.mul_add]; omega
      · rw [odd, Nat.mul_add]; omega

/-- A rounded quotient lies at most half a unit above the exact one. -/
theorem roundHalfEven_le (num den : Nat) :
    2 * (den * roundHalfEven num den) ≤ 2 * num + den := by
  have division := Nat.div_add_mod num den
  unfold roundHalfEven
  dsimp only
  split
  · omega
  · split
    · rw [Nat.mul_add]; omega
    · rcases Nat.mod_two_eq_zero_or_one (num / den) with even | odd
      · rw [even, Nat.mul_add]; omega
      · rw [odd, Nat.mul_add]; omega

/-- The greatest `k` such that `2 ^ k` is at most the quotient of two positive numbers. -/
def floorLog2 (num den : Nat) : Int :=
  let guess : Int := (Nat.log2 num : Int) - Nat.log2 den
  if den * Nat.pow 2 guess.toNat ≤ num * Nat.pow 2 (-guess).toNat then guess else guess - 1

/-- A double-precision number. A finite one has the value `significand · 2 ^ exponent`, negated if
`negative`. -/
inductive Binary64
  | finite (negative : Bool) (significand : Nat) (exponent : Int)
  | infinite (negative : Bool)
  | nan
  deriving DecidableEq, Repr

namespace Binary64

/-- The power of two of the smallest positive double. -/
def minExponent : Int := -1074

/-- The power of two of the last place of the greatest double. -/
def maxExponent : Int := 971

/-- How many bits a significand has. -/
def precision : Nat := 53

/-- A zero with a sign. -/
def zero (negative : Bool) : Binary64 := .finite negative 0 minExponent

/-- The double nearest to a quotient, ties to even. -/
def ofRatio (negative : Bool) (num den : Nat) : Binary64 :=
  if num = 0 then zero negative
  else
    let exponent := max (floorLog2 num den - (precision - 1)) minExponent
    let significand :=
      roundHalfEven (num * Nat.pow 2 (-exponent).toNat) (den * Nat.pow 2 exponent.toNat)
    -- Rounding may carry into one bit more than a significand has.
    if significand = Nat.pow 2 precision then
      if exponent < maxExponent then .finite negative (Nat.pow 2 (precision - 1)) (exponent + 1)
      else .infinite negative
    else if exponent ≤ maxExponent then .finite negative significand exponent
    else .infinite negative

/-- The double nearest to `coefficient · 10 ^ exponent`. Far outside the range of doubles the
quotient is not formed: beyond `10 ^ 310` everything is infinite, below `10 ^ -330` zero. -/
def ofScientific (negative : Bool) (coefficient : Nat) (exponent : Int) : Binary64 :=
  let place := exponent + digitCount coefficient
  if coefficient = 0 then zero negative
  else if 310 < place then .infinite negative
  else if place < -330 then zero negative
  else ofRatio negative (coefficient * Nat.pow 10 exponent.toNat) (Nat.pow 10 (-exponent).toNat)

/-- The double nearest to a decimal. -/
def ofDecimal : Decimal → Binary64
  | .finite negative coefficient exponent => ofScientific negative coefficient exponent
  | .infinite negative => .infinite negative
  | .nan .. => .nan

/-- The double nearest to an integer. -/
def ofInt (n : Int) : Binary64 := ofScientific (n < 0) n.natAbs 0

/-- Whether a double is zero, of either sign. -/
def isZero : Binary64 → Bool
  | finite _ significand _ => significand == 0
  | _ => false

/-- The absolute value of a finite double as a quotient. -/
def ratio (significand : Nat) (exponent : Int) : Nat × Nat :=
  (significand * Nat.pow 2 exponent.toNat, Nat.pow 2 (-exponent).toNat)

/-- The integer part of a finite double, its fraction cut off. -/
def truncate? : Binary64 → Option Int
  | finite negative significand exponent =>
    let (num, den) := ratio significand exponent
    let whole : Int := (num / den : Nat)
    some (if negative then -whole else whole)
  | _ => none

/-- Whether a double equals an integer. -/
def equals (x : Binary64) (n : Int) : Bool :=
  match x with
  | finite negative significand exponent =>
    let (num, den) := ratio significand exponent
    num == n.natAbs * den && (n == 0 || negative == decide (n < 0))
  | _ => false

/-- Whether a double is less than an integer. -/
def isBelow (x : Binary64) (n : Int) : Bool :=
  match x with
  | finite negative significand exponent =>
    let (num, den) := ratio significand exponent
    (if negative then -(num : Int) else num) < n * den
  | infinite negative => negative
  | nan => false

/-- The double rounded to hundredths and written with two places; the tie between two hundredths,
which is decided on the exact value, goes to the even one. -/
def cents : Binary64 → Text
  | nan => Text.ofString "NaN"
  | infinite negative => Decimal.signText negative ++ Text.ofString "Infinity"
  | finite negative significand exponent =>
    let (num, den) := ratio significand exponent
    let hundredths := roundHalfEven (100 * num) den
    let twoDigits (n : Nat) : Text := [.ofNat (0x30 + n / 10), .ofNat (0x30 + n % 10)]
    Decimal.signText negative ++ Text.ofNat (hundredths / 100) ++
      ('.' : CodePoint) :: twoDigits (hundredths % 100)

end Binary64

end Storefront
