import Storefront.Text.Utf8

/-!
# Texts of any bytes

An environment keeps bytes, and they need not be UTF-8. Read as a text, each byte that belongs to no
code point becomes a surrogate of its own; written as bytes, such a surrogate becomes its byte
again. The other surrogates stand for no byte, and bytes that stray one by one may be the form of a
code point together.

## Main definitions

* `Text.anyBytes` — the bytes of a text with surrogates for stray bytes
* `Text.ofAnyBytes` — the text of any bytes
* `Text.byteless?` — what keeps a text from being written in this way
-/

namespace Storefront

/-- The byte that a surrogate stands for. -/
def CodePoint.strayByte? (c : CodePoint) : Option UInt8 :=
  if 0xDC80 ≤ c.toNat && c.toNat ≤ 0xDCFF then some (.ofNat (c.toNat - 0xDC00)) else none

/-- The surrogate that stands for a byte. -/
def CodePoint.ofStrayByte (b : UInt8) : CodePoint := .ofNat (0xDC00 + b.toNat)

/-- Whether a code point is a surrogate that stands for no byte. -/
def CodePoint.isByteless (c : CodePoint) : Bool := c.isSurrogate && c.strayByte?.isNone

namespace Text

/-- The bytes of a text in which surrogates stand for stray bytes. -/
def anyBytes (t : Text) : Bytes :=
  t.flatMap fun c => match c.strayByte? with
    | some b => [b]
    | none => c.utf8

/-- The text of any bytes, with a surrogate for each stray byte. -/
def ofAnyBytes (bytes : Bytes) : Text :=
  (Utf8.units false bytes).flatMap (Utf8.Unit.text (·.map CodePoint.ofStrayByte))

/-- The place of the first surrogate without a byte, and the run of surrogates that starts there. -/
def byteless? (t : Text) : Option (Nat × Text) :=
  let before := t.takeWhile (!·.isByteless)
  match (t.drop before.length).takeWhile (·.isSurrogate) with
  | [] => none
  | run => some (before.length, run)

end Text

end Storefront
