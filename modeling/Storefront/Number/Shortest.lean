import Storefront.Number.Binary64

/-!
# The shortest text of a double

A double is shown by the decimal of fewest digits that reads back as the same double, and by the
nearest such decimal if there are several. It is written with a point while its first digit
stands for a power of ten from `10 ^ -4` to `10 ^ 15`, and with an exponent of at least two digits
otherwise.

## Main definitions

* `Binary64.shortest` — the digits and the power of ten of their last place
* `Binary64.text` — the text
-/

namespace Storefront

/-- The greatest `k` such that `10 ^ k` is at most the quotient of two positive numbers. -/
def floorLog10 (num den : Nat) : Int :=
  let guess : Int := (digitCount num : Int) - digitCount den
  if den * Nat.pow 10 guess.toNat ≤ num * Nat.pow 10 (-guess).toNat then guess else guess - 1

namespace Binary64

/-- The decimal of the grid `10 ^ exponent` nearest to a positive double among those that read back
as it. Only the two neighbours of the double on the grid can be nearest. -/
def onGrid? (significand : Nat) (exponent place : Int) : Option Nat :=
  let (num, den) := ratio significand exponent
  let num := num * Nat.pow 10 (-place).toNat
  let den := den * Nat.pow 10 place.toNat
  let low := num / den
  let nearest := roundHalfEven num den
  -- The interval that reads back may lie to one side, so the farther neighbour has its turn too.
  let other := if nearest = low then low + 1 else low
  let readsBack (n : Nat) : Bool :=
    ofScientific false n place == .finite false significand exponent
  if readsBack nearest then some nearest
  else if readsBack other then some other
  else none

/-- All digits of a finite double: the coefficient and the power of ten of its last place. -/
def exactDigits (significand : Nat) (exponent : Int) : Nat × Int :=
  if 0 ≤ exponent then (significand * Nat.pow 2 exponent.toNat, 0)
  else (significand * Nat.pow 5 (-exponent).toNat, exponent)

/-- A coefficient that rounding has carried to the next power of ten, with its zeros dropped. -/
def dropCarry (digits : Nat) (coefficient : Nat) (place : Int) : Nat × Int :=
  if coefficient = Nat.pow 10 digits then (1, place + digits) else (coefficient, place)

/-- The coefficient and the power of ten of the shortest decimal that reads back as a positive
double: the first number of digits from one to seventeen whose grid has one. -/
def shortest (significand : Nat) (exponent : Int) : Nat × Int :=
  let (num, den) := ratio significand exponent
  let leading := floorLog10 num den
  let hit := (List.range 17).findSome? fun (more : Nat) =>
    let place := leading - (more : Int)
    (onGrid? significand exponent place).map fun n => dropCarry (more + 1) n place
  hit.getD (exactDigits significand exponent)

/-- Digits with a point that has digits on both sides, filled up with zeros. -/
def positionalText (digits : Text) (place : Int) : Text :=
  let fill (n : Int) : Text := List.replicate n.toNat '0'
  if place ≤ 0 then Text.ofString "0." ++ fill (-place) ++ digits
  else if (digits.length : Int) ≤ place then
    digits ++ fill (place - digits.length) ++ Text.ofString ".0"
  else digits.take place.toNat ++ ('.' : CodePoint) :: digits.drop place.toNat

/-- An exponent after its letter, with a sign and at least two digits. -/
def exponentText (exponent : Int) : Text :=
  let numeral := Text.ofNat exponent.natAbs
  ('e' : CodePoint) :: (if exponent < 0 then ('-' : CodePoint) else '+') ::
    (if numeral.length < 2 then ('0' : CodePoint) :: numeral else numeral)

/-- The shortest text of a double. -/
def text : Binary64 → Text
  | nan => Text.ofString "nan"
  | infinite negative => Decimal.signText negative ++ Text.ofString "inf"
  | finite negative significand exponent =>
    if significand = 0 then Decimal.signText negative ++ Text.ofString "0.0"
    else
      let (coefficient, last) := shortest significand exponent
      let digits := Text.ofNat coefficient
      let place := last + digits.length
      Decimal.signText negative ++
        if -4 < place ∧ place ≤ 16 then positionalText digits place
        else Decimal.pointedText digits 1 ++ exponentText (place - 1)

end Binary64

end Storefront
