import Storefront.Text.Basic

/-!
# Hexadecimal numerals

The fixed-width hexadecimal numerals that escapes are made of, in small letters or in capitals.
-/

namespace Storefront.Text

/-- The digit of a value below sixteen, with small letters. -/
def hexDigit (n : Nat) : CodePoint :=
  .ofNat (if n < 10 then 0x30 + n else 0x57 + n)

/-- The last `width` hexadecimal digits of a number, with small letters. -/
def hex : (width : Nat) → Nat → Text
  | 0, _ => []
  | width + 1, n => hex width (n / 16) ++ [hexDigit (n % 16)]

/-- A byte in percent notation, with capitals. -/
def percent (b : UInt8) : Text := ('%' : CodePoint) :: (hex 2 b.toNat).toUpper

end Storefront.Text
