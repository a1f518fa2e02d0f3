import Storefront.Text.Utf8

/-!
# Percent notation

A byte may be written as a percent sign and two hexadecimal digits. A percent sign without them
stands for itself.

## Main definitions

* `Bytes.percentDecode` — the bytes that a byte sequence in percent notation writes
* `Text.percentDecode` — the text that a text in percent notation writes
* `Text.percentEncode` — a text in percent notation, but for the characters that need none
-/

namespace Storefront

/-- The value of a hexadecimal digit among bytes. -/
def hexByte? (b : UInt8) : Option Nat := (CodePoint.ofNat b.toNat).hexDigit?

/-- The byte that two hexadecimal digits write. -/
def hexPair? (high low : UInt8) : Option UInt8 := do
  let high ← hexByte? high
  let low ← hexByte? low
  return .ofNat (16 * high + low)

/-- The decoded bytes of a sequence, in front of those already decoded. -/
def Bytes.percentDecodeFrom : Bytes → Bytes → Bytes
  | [], done => done.reverse
  | [a], done => (a :: done).reverse
  | [a, b], done => (b :: a :: done).reverse
  | a :: b :: c :: rest, done =>
    match if a = 0x25 then hexPair? b c else none with
    | some value => Bytes.percentDecodeFrom rest (value :: done)
    | none => Bytes.percentDecodeFrom (b :: c :: rest) (a :: done)

/-- The bytes that a byte sequence in percent notation writes. -/
def Bytes.percentDecode (bytes : Bytes) : Bytes := Bytes.percentDecodeFrom bytes []

namespace Text

/-- The text that a text in percent notation writes; what is not UTF-8 becomes the replacement
character. Surrogates, which have no bytes, stay as they are. -/
def percentDecode (t : Text) : Text :=
  (t.splitBy fun a b => a.isSurrogate == b.isSurrogate).flatMap fun (run : Text) =>
    if run.hasSurrogate then run else Utf8.decodeReplacing (Bytes.percentDecode run.utf8)

/-- The characters that percent notation never needs. -/
def isUnreserved (c : CodePoint) : Bool :=
  let n := c.toNat
  (0x30 ≤ n && n ≤ 0x39) || (0x41 ≤ n && n ≤ 0x5A) || (0x61 ≤ n && n ≤ 0x7A) ||
    c = ('_' : CodePoint) || c = ('.' : CodePoint) || c = ('-' : CodePoint) || c = ('~' : CodePoint)

/-- A text with every character in percent notation that is neither unreserved nor declared safe. -/
def percentEncode (t : Text) (safe : Text) : Text :=
  t.flatMap fun c => if isUnreserved c || safe.contains c then [c] else c.utf8.flatMap percent

end Text

end Storefront
