import Storefront.Json.Basic

/-!
# Writing JSON

A value is written without blanks and in ASCII alone: whatever lies outside the printable ASCII
characters is written as an escape, a code point beyond the sixteen-bit ones as the two escapes of
its surrogate pair. Members are written in the order that they have.

## Main definitions

* `Json.print` — the text of a value
-/

namespace Storefront.Json

/-- The escape for a number below `0x10000`. -/
def unicodeEscape (n : Nat) : Text := '\\' :: 'u' :: Text.hex 4 n

/-- A code point inside a string. -/
def printCodePoint (c : CodePoint) : Text :=
  let n := c.toNat
  if c = ('"' : CodePoint) then ['\\', '"']
  else if c = ('\\' : CodePoint) then ['\\', '\\']
  else if n = 0x08 then ['\\', 'b']
  else if n = 0x09 then ['\\', 't']
  else if n = 0x0A then ['\\', 'n']
  else if n = 0x0C then ['\\', 'f']
  else if n = 0x0D then ['\\', 'r']
  else if 0x20 ≤ n && n < 0x7F then [c]
  else if n < 0x10000 then unicodeEscape n
  else unicodeEscape (0xD800 + (n - 0x10000) / 0x400) ++
    unicodeEscape (0xDC00 + (n - 0x10000) % 0x400)

/-- A string between its quotes. -/
def printText (t : Text) : Text :=
  ('"' : CodePoint) :: t.flatMap printCodePoint ++ [('"' : CodePoint)]

/-- A floating-point number: its shortest text, with words of their own for what is not finite. -/
def printFloat : Binary64 → Text
  | .nan => Text.ofString "NaN"
  | .infinite negative => Decimal.signText negative ++ Text.ofString "Infinity"
  | x => x.text

mutual

/-- The text of a value. -/
def print : Json → Text
  | null => Text.ofString "null"
  | bool true => Text.ofString "true"
  | bool false => Text.ofString "false"
  | int n => Text.ofInt n
  | float x => printFloat x
  | str t => printText t
  | arr items =>
    ('[' : CodePoint) :: [(',' : CodePoint)].intercalate (printItems items) ++
      [(']' : CodePoint)]
  | obj members =>
    ('\x7b' : CodePoint) :: [(',' : CodePoint)].intercalate (printMembers members) ++
      [('\x7d' : CodePoint)]

/-- The texts of the items of an array. -/
def printItems : List Json → List Text
  | [] => []
  | item :: rest => print item :: printItems rest

/-- The texts of the members of an object. -/
def printMembers : List (Text × Json) → List Text
  | [] => []
  | (name, value) :: rest =>
    (printText name ++ (':' : CodePoint) :: print value) :: printMembers rest

end

end Storefront.Json
