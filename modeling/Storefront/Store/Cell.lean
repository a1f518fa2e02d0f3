import Storefront.Number.Scaled
import Storefront.Number.Significant
import Storefront.Product.Basic
import Storefront.Text.Written

/-!
# Cells

A value for a column is handed over in one of four forms, and what has none of these forms is
refused. The column then keeps what suits it: a column of texts makes numerals of numbers, and a
column of integers makes integers of whatever has the value of one and keeps the rest as it is.

## Main definitions

* `Cell` — the forms
* `Cell.ofJson` — the form of a value
* `Cell.inTexts`, `Cell.inIntegers` — what the two kinds of column keep of a cell

## Main results

* `Cell.checkInteger_eq_ok_iff` — which integers are refused
-/

namespace Storefront

/-- A value in the form in which it is handed over to the store. -/
inductive Cell
  | null
  | integer (n : Int)
  | real (x : Binary64)
  | text (t : Text)
  deriving DecidableEq

namespace Cell

/-- The smallest integer of 64 bits with a sign. -/
def minInteger : Int := -9223372036854775808

/-- The greatest integer of 64 bits with a sign. -/
def maxInteger : Int := 9223372036854775807

/-- Whether an integer fits into 64 bits with a sign. -/
def fits (n : Int) : Bool := minInteger ≤ n && n ≤ maxInteger

theorem fits_iff {n : Int} : fits n = true ↔ minInteger ≤ n ∧ n ≤ maxInteger := by
  rw [fits, Bool.and_eq_true, decide_eq_true_eq, decide_eq_true_eq]

/-- An integer can be handed over when it fits into 64 bits with a sign. -/
def checkInteger (n : Int) : Except Fault Unit :=
  if fits n then .ok () else .error .integerTooWide

theorem checkInteger_eq_ok_iff {n : Int} :
    checkInteger n = .ok () ↔ minInteger ≤ n ∧ n ≤ maxInteger := by
  rw [← fits_iff]
  simp [checkInteger]

/-- The form of a value that is handed over in a certain place. NaN is no value. -/
def ofJson (position : Nat) : Json → Except Fault Cell
  | .null => .ok .null
  | .bool b => .ok (.integer (if b then 1 else 0))
  | .int n => (checkInteger n).map fun _ => .integer n
  | .float .nan => .ok .null
  | .float x => .ok (.real x)
  | .str t => (t.checkWritten).map fun _ => .text t
  | value => .error (.unstorable position value)

/-- What a column of texts keeps: texts and numerals. -/
def inTexts : Cell → Option Text
  | null => none
  | integer n => some (Text.ofInt n)
  | real x => x.numeral
  | text t => some t

/-- What a column of integers keeps of a double: an integer if it has the value of one that lies
strictly between the bounds. -/
def wholeOfReal (x : Binary64) : Stock :=
  match x.truncate? with
  | some n => if x.equals n && minInteger < n && n ≤ maxInteger then .whole n else .real x
  | none => .real x

/-- What may stand around a number in a text: the blanks of ASCII. -/
def isMargin (c : CodePoint) : Bool :=
  (0x09 ≤ c.toNat && c.toNat ≤ 0x0D) || c = (' ' : CodePoint)

/-- The number that a text without margins writes in ASCII digits, with a point or an exponent or
neither. -/
def readNumber? (t : Text) : Option Stock := do
  let (negative, body) := Integer.splitSign t
  let (whole, afterWhole) := Decimal.splitDigits body
  let (fraction, afterFraction) := Decimal.splitFraction afterWhole
  let exponent ← Decimal.readExponent afterFraction
  if (whole ++ fraction).isEmpty then none
  else
    let magnitude : Int := valueOfDigits whole
    let n := if negative then -magnitude else magnitude
    if afterWhole.isEmpty && fits n then return .whole n
    else
      return wholeOfReal ((Scaled.ofDigits whole fraction exponent).toBinary64 negative)

/-- What a column of integers keeps: the number that a text writes takes the place of the text. -/
def inIntegers : Cell → Option Stock
  | null => none
  | integer n => some (.whole n)
  | real x => some (wholeOfReal x)
  | text t => some ((readNumber? (Text.trimEnds isMargin t)).getD (.words t))

end Cell

end Storefront
