import Storefront.Number.Numeral
import Storefront.Text.Blank

/-!
# Integers in text

An integer is written as an optional sign and decimal digits of any script, with single underscores
between digits where the writer wants them, and with blanks around it. Numerals of more than
4300 digits are refused, because reading them takes time that grows with the square of their
length.

## Main definitions

* `Integer.Misread` — why a text is no integer
* `Integer.read` — the integer that a text writes
-/

namespace Storefront.Integer

/-- Why a text was not read as an integer. -/
inductive Misread
  /-- The text is no numeral. -/
  | malformed
  /-- The text starts as a numeral of too many digits. -/
  | tooLong (digits : Nat)
  deriving DecidableEq, Repr

/-- The most digits that a numeral may have. -/
def maxDigits : Nat := 4300

/-- What may stand around a numeral: the blanks, without the information separators. -/
def isMargin (c : CodePoint) : Bool := c.isBlank && !(0x1C ≤ c.toNat && c.toNat ≤ 0x1F)

/-- Whether a row of digits and underscores has digits on both sides of every underscore. -/
def isGrouped (run : Text) : Bool := (run.splitAll '_').all (!·.isEmpty)

/-- A leading sign, and the text after it. -/
def splitSign (t : Text) : Bool × Text :=
  match t with
  | c :: rest =>
    if c = ('-' : CodePoint) then (true, rest)
    else if c = ('+' : CodePoint) then (false, rest)
    else (false, t)
  | [] => (false, [])

/-- The integer that a text writes. -/
def read (t : Text) : Except Misread Int :=
  let (negative, body) := splitSign (t.dropWhile isMargin)
  let run := body.takeWhile fun c => c.isDigit || c = ('_' : CodePoint)
  let digits := run.filterMap CodePoint.digit?
  if !isGrouped run then .error .malformed
  -- The digits are counted before it is known whether anything else follows them.
  else if maxDigits < digits.length then .error (.tooLong digits.length)
  else if (body.drop run.length).all isMargin then
    let value : Int := valueOfDigits digits
    .ok (if negative then -value else value)
  else .error .malformed

end Storefront.Integer
