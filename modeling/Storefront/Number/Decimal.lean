import Storefront.Number.Integer

/-!
# Decimal numbers

A decimal number as it was written: a sign, a coefficient and a power of ten, so that `1.50` and
`1.5` differ, and zero has a sign and an exponent too. Infinities and the two kinds of NaN, which
may carry a number of their own, are decimals as well.

## Main definitions

* `Decimal` — the type
* `Decimal.read` — the decimal that a text writes
* `Decimal.text` — the text of a decimal
* `Decimal.isFinite`, `Decimal.isBelowZero`
-/

namespace Storefront

/-- A decimal number. A finite one has the value `coefficient · 10 ^ exponent`, negated if
`negative`; the payload of a NaN is zero when it has none. -/
inductive Decimal
  | finite (negative : Bool) (coefficient : Nat) (exponent : Int)
  | infinite (negative : Bool)
  | nan (negative signaling : Bool) (payload : Nat)
  deriving DecidableEq, Repr

namespace Decimal

/-- Why a text was not read as a decimal. -/
inductive Misread
  /-- The text is no decimal. -/
  | malformed
  /-- The text is a decimal whose exponent is out of bounds. -/
  | outOfRange
  deriving DecidableEq, Repr

/-- Neither infinite nor NaN. -/
def isFinite : Decimal → Bool
  | finite .. => true
  | _ => false

/-- Less than zero; a zero with a minus sign is not. -/
def isBelowZero : Decimal → Bool
  | finite negative coefficient _ => negative && coefficient != 0
  | infinite negative => negative
  | nan .. => false

/-- The greatest power of ten that the first digit of a decimal may stand for. -/
def maxExponent : Int := 999999999999999999

/-- The least power of ten that the last digit of a decimal may stand for. -/
def minExponent : Int := -1999999999999999997

/-- The finite decimal with these parts, if its exponent is within bounds. For a zero it is the
exponent itself that must not be too great. -/
def ofParts (negative : Bool) (coefficient : Nat) (exponent : Int) : Except Misread Decimal :=
  let leading := if coefficient = 0 then exponent else exponent + digitCount coefficient - 1
  if maxExponent < leading || exponent < minExponent then .error .outOfRange
  else .ok (.finite negative coefficient exponent)

/-- The leading ASCII digits of a text as values, and the text after them. -/
def splitDigits (t : Text) : List Nat × Text :=
  let run := t.takeWhile fun c => c.asciiDigit?.isSome
  (run.filterMap CodePoint.asciiDigit?, t.drop run.length)

/-- A point and the digits after it, if the text starts with a point. -/
def splitFraction (t : Text) : List Nat × Text :=
  match t with
  | c :: rest => if c = ('.' : CodePoint) then splitDigits rest else ([], t)
  | [] => ([], [])

/-- The power of ten that a whole text writes as the letter `e`, an optional sign and digits; the
empty text writes none. -/
def readExponent (t : Text) : Option Int :=
  match t with
  | [] => some 0
  | c :: rest =>
    if c.toLower = ('e' : CodePoint) then
      let (negative, body) := Integer.splitSign rest
      match splitDigits body with
      | ([], _) => none
      | (digits, []) =>
        let value : Int := valueOfDigits digits
        some (if negative then -value else value)
      | _ => none
    else none

/-- A finite decimal without its sign: digits with or without a point, and perhaps an exponent. -/
def readFinite (negative : Bool) (t : Text) : Except Misread Decimal :=
  let (whole, afterWhole) := splitDigits t
  let (fraction, afterFraction) := splitFraction afterWhole
  match whole ++ fraction, readExponent afterFraction with
  | [], _ => .error .malformed
  | _, none => .error .malformed
  | digits, some exponent =>
    ofParts negative (valueOfDigits digits) (exponent - fraction.length)

/-- The payload that a whole text writes in digits; the empty text writes zero. -/
def readPayload (t : Text) : Option Nat :=
  match splitDigits t with
  | (digits, []) => some (valueOfDigits digits)
  | _ => none

/-- An infinity or NaN without its sign, its name in any case. -/
def readSpecial (negative : Bool) (t : Text) : Option Decimal :=
  let name := t.toLower
  if name = Text.ofString "inf" || name = Text.ofString "infinity" then some (.infinite negative)
  else if Text.ofString "nan" <+: name then
    (readPayload (t.drop 3)).map (.nan negative false)
  else if Text.ofString "snan" <+: name then
    (readPayload (t.drop 4)).map (.nan negative true)
  else none

/-- A digit of any script as the ASCII digit of its value. -/
def plainDigit (c : CodePoint) : CodePoint :=
  match c.digit? with
  | some d => .ofNat (0x30 + d)
  | none => c

/-- The decimal that a text writes. Blanks around it, underscores anywhere in it and the script of
its digits make no difference. -/
def read (t : Text) : Except Misread Decimal :=
  let plain := (t.strip.filter (· != ('_' : CodePoint))).map plainDigit
  let (negative, body) := Integer.splitSign plain
  match readSpecial negative body with
  | some d => .ok d
  | none => readFinite negative body

/-- A minus sign for what is negative. -/
def signText (negative : Bool) : Text := if negative then ['-'] else []

/-- An exponent after its letter, always with a sign. -/
def exponentText (exponent : Int) : Text :=
  ('E' : CodePoint) :: (if exponent < 0 then ('-' : CodePoint) else '+') ::
    Text.ofNat exponent.natAbs

/-- Digits with a point after the first `place` of them; with zeros in front where there are fewer
than one, and without a point where none follows. -/
def pointedText (digits : Text) (place : Int) : Text :=
  if place ≤ 0 then
    Text.ofString "0." ++ List.replicate (-place).toNat ('0' : CodePoint) ++ digits
  else
    match digits.drop place.toNat with
    | [] => digits
    | fraction => digits.take place.toNat ++ ('.' : CodePoint) :: fraction

/-- The text of a decimal. It is written without an exponent if its own exponent is at most zero and
its first digit stands for at least a millionth. -/
def text : Decimal → Text
  | infinite negative => signText negative ++ Text.ofString "Infinity"
  | nan negative signaling payload =>
    signText negative ++ Text.ofString (if signaling then "sNaN" else "NaN") ++
      (if payload = 0 then [] else Text.ofNat payload)
  | finite negative coefficient exponent =>
    let digits := Text.ofNat coefficient
    let place := exponent + digits.length
    signText negative ++
      if exponent ≤ 0 ∧ -6 < place then pointedText digits place
      else pointedText digits 1 ++ exponentText (place - 1)

end Decimal

end Storefront
