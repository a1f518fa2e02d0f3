import Storefront.Text.Digit

/-!
# Decimal numerals

Numbers written out in the ten ASCII digits, and the value of a row of digits.

## Main definitions

* `Text.ofNat`, `Text.ofInt` — the numeral of a number, without leading zeros
* `valueOfDigits` — the number that a row of digits writes
-/

namespace Storefront

/-- The numeral of a natural number. -/
def Text.ofNat (n : Nat) : Text := (Nat.toDigits 10 n).map CodePoint.ofChar

/-- The numeral of an integer, with a minus sign before a negative one. -/
def Text.ofInt : Int → Text
  | .ofNat n => Text.ofNat n
  | .negSucc n => ('-' : CodePoint) :: Text.ofNat (n + 1)

/-- The number that a row of digit values writes, most significant first. -/
def valueOfDigits (digits : List Nat) : Nat := digits.foldl (fun value d => 10 * value + d) 0

/-- How many digits the numeral of a number has. -/
def digitCount (n : Nat) : Nat := (Nat.toDigits 10 n).length

@[simp] theorem Text.length_ofNat (n : Nat) : (Text.ofNat n).length = digitCount n := by
  simp [Text.ofNat, digitCount]

theorem digitCount_pos (n : Nat) : 0 < digitCount n := Nat.length_toDigits_pos

theorem valueOfDigits_append_singleton (digits : List Nat) (d : Nat) :
    valueOfDigits (digits ++ [d]) = 10 * valueOfDigits digits + d := by
  simp [valueOfDigits]

end Storefront
