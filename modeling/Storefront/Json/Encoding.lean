import Storefront.Json.Nesting
import Storefront.Text.Wide

/-!
# JSON as bytes

A JSON text may come in UTF-8, UTF-16 or UTF-32, with or without a byte order mark. Its first
character is an ASCII one, so the zero bytes among the first four tell which encoding it is.

## Main definitions

* `Json.Encoding`, `Json.Encoding.detect` — the encoding of a byte sequence and the bytes after
  the mark
* `Json.readBytes?`, `Json.excessBytes?` — the value of a byte sequence, and the bracket for which
  there is no room
-/

namespace Storefront.Json

/-- An encoding of text. -/
inductive Encoding
  | utf8
  | utf16 (order : ByteOrder)
  | utf32 (order : ByteOrder)
  deriving DecidableEq, Repr

/-- The text of a byte sequence. Halves of surrogate pairs are read in every encoding. -/
def Encoding.decode? : Encoding → Bytes → Option Text
  | utf8, bytes => Utf8.decode? true bytes
  | utf16 order, bytes => Utf16.decode? order bytes
  | utf32 order, bytes => Utf32.decode? order bytes

/-- The encoding that the zeros among the first bytes tell. -/
def Encoding.ofZeros : Bytes → Encoding
  | a :: b :: c :: d :: _ =>
    if a = 0 then if b = 0 then utf32 .bigEndian else utf16 .bigEndian
    else if b = 0 then
      if c = 0 && d = 0 then utf32 .littleEndian else utf16 .littleEndian
    else utf8
  | [a, b] =>
    if a = 0 then utf16 .bigEndian else if b = 0 then utf16 .littleEndian else utf8
  | _ => utf8

/-- The byte order marks and what they stand for; a longer mark comes before its own start. -/
def Encoding.marks : List (Bytes × Encoding) :=
  [([0x00, 0x00, 0xFE, 0xFF], utf32 .bigEndian), ([0xFF, 0xFE, 0x00, 0x00], utf32 .littleEndian),
   ([0xFE, 0xFF], utf16 .bigEndian), ([0xFF, 0xFE], utf16 .littleEndian),
   ([0xEF, 0xBB, 0xBF], utf8)]

/-- The encoding of a byte sequence, and the bytes without their mark. -/
def Encoding.detect (bytes : Bytes) : Encoding × Bytes :=
  match Encoding.marks.find? (·.1.isPrefixOf bytes) with
  | some (mark, encoding) => (encoding, bytes.drop mark.length)
  | none => (Encoding.ofZeros bytes, bytes)

/-- The value that a byte sequence writes. -/
def readBytes? (bytes : Bytes) : Option Json := do
  let (encoding, rest) := Encoding.detect bytes
  let text ← encoding.decode? rest
  (read text).toOption

/-- The first bracket of what a byte sequence writes that is one too many to be open at once. -/
def excessBytes? (room : Nat) (bytes : Bytes) : Option Bracket := do
  let (encoding, rest) := Encoding.detect bytes
  let text ← encoding.decode? rest
  excess? room text

end Storefront.Json
