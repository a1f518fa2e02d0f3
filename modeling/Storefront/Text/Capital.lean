import Storefront.Text.Basic

/-!
# Capitals

The capitals of small letters, as far as they are letters of ASCII. Some letters outside ASCII have
such capitals too: the dotless i, the long s, the sharp s and the ligatures, of which the last two
have more than one.

## Main definitions

* `Text.capitals` — a text in capitals
-/

namespace Storefront

/-- The letters outside ASCII whose capitals lie in ASCII, with these. -/
def foreignCapitals : List (Nat × String) :=
  [(0xDF, "SS"), (0x131, "I"), (0x17F, "S"), (0xFB00, "FF"), (0xFB01, "FI"), (0xFB02, "FL"),
   (0xFB03, "FFI"), (0xFB04, "FFL"), (0xFB05, "ST"), (0xFB06, "ST")]

/-- The capitals of a code point, or the code point itself if ASCII has none for it. -/
def CodePoint.capitals (c : CodePoint) : Text :=
  match foreignCapitals.lookup c.toNat with
  | some letters => Text.ofString letters
  | none => [c.toUpper]

/-- A text in capitals. -/
def Text.capitals (t : Text) : Text := t.flatMap CodePoint.capitals

end Storefront
