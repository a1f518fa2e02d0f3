import Storefront.Text.Utf8

/-!
# Text in units of two and four bytes

UTF-16 and UTF-32 as readers of byte sequences, in either order of bytes. Halves of surrogate pairs
that have no partner are read as they are.

## Main definitions

* `Utf16.decode?`, `Utf32.decode?` — the text of a byte sequence
-/

namespace Storefront

/-- Which end of a number its first byte is. -/
inductive ByteOrder
  | bigEndian
  | littleEndian
  deriving DecidableEq, Repr

/-- The number that some bytes write. -/
def ByteOrder.value (order : ByteOrder) (bytes : Bytes) : Nat :=
  let digits := match order with
    | .bigEndian => bytes
    | .littleEndian => bytes.reverse
  digits.foldl (fun value b => 0x100 * value + b.toNat) 0

namespace Utf16

/-- The sixteen-bit units of a byte sequence in front of those already found. -/
def unitsFrom? (order : ByteOrder) : Bytes → Text → Option Text
  | [], done => some done.reverse
  | [_], _ => none
  | a :: b :: rest, done => unitsFrom? order rest (.ofNat (order.value [a, b]) :: done)

/-- Units with the halves of pairs joined, in front of what is already joined. -/
def joinFrom : Text → Text → Text
  | [], done => done.reverse
  | c :: rest, done =>
    match done with
    | high :: before =>
      if high.isHighSurrogate && c.isLowSurrogate then joinFrom rest (.ofPair high c :: before)
      else joinFrom rest (c :: done)
    | [] => joinFrom rest [c]

/-- The text of a byte sequence. -/
def decode? (order : ByteOrder) (bytes : Bytes) : Option Text :=
  (unitsFrom? order bytes []).map (joinFrom · [])

end Utf16

namespace Utf32

/-- The code points of a byte sequence in front of those already found. -/
def decodeFrom? (order : ByteOrder) : Bytes → Text → Option Text
  | [], done => some done.reverse
  | a :: b :: c :: d :: rest, done =>
    let n := order.value [a, b, c, d]
    if h : n < 0x110000 then decodeFrom? order rest (⟨n, h⟩ :: done) else none
  | _, _ => none

/-- The text of a byte sequence. -/
def decode? (order : ByteOrder) (bytes : Bytes) : Option Text := decodeFrom? order bytes []

end Utf32

end Storefront
