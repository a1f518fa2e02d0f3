import Storefront.Text.Composed
import Storefront.Text.Direction
import Storefront.Text.Folded
import Storefront.Text.Punycode

/-!
# Names of hosts

The name of a host is made of labels with points between them. It is sent in ASCII: a label with
other code points is prepared, so that case and compatible forms make no difference, and written in
Punycode behind a mark, unless the preparation has left only ASCII. A name that has been sent can be
shown as it was meant, if its labels in Punycode are those that would be sent for what they tell.

## Main definitions

* `HostName.Flaw` — why a name cannot be sent or shown
* `HostName.prepare` — a label prepared
* `HostName.encode`, `HostName.decode` — a name as it is sent and as it is shown
-/

namespace Storefront.HostName

/-- Why a name cannot be sent or shown. -/
inductive Flaw
  /-- A label is empty or too long. -/
  | emptyOrLongLabel
  /-- The last label of a name in ASCII is too long. -/
  | longLabel
  /-- A label has a code point that no name has. -/
  | forbidden (c : CodePoint)
  /-- A label that is written from right to left has something that is written the other way. -/
  | mixedDirections
  /-- A label that is written from right to left starts or ends with something that is not. -/
  | looseDirection
  /-- A label looks like one in Punycode and is none. -/
  | marked
  /-- A label in Punycode tells nothing. -/
  | misread (why : Punycode.Misread)
  /-- A label is not what is sent for what it tells. -/
  | unstable (label sent : Text)
  deriving DecidableEq

/-- The most characters of a label. -/
def labelMax : Nat := 63

/-- Whether a text is in ASCII. -/
def isAscii (t : Text) : Bool := t.all (·.toNat < 0x80)

/-- What stands in front of a label in Punycode. -/
def punycodeMark : Text := Text.ofString "xn--"

/-- A label has some characters and not too many. -/
def checkLabel (label : Text) : Except Flaw Unit :=
  if label.isEmpty || labelMax < label.length then .error .emptyOrLongLabel else .ok ()

/-- The intervals of code points that are left out of a label. -/
def droppedRanges : Text.Ranges :=
  [(0xAD, 0xAD), (0x34F, 0x34F), (0x1806, 0x1806), (0x180B, 0x180D), (0x200B, 0x200D),
   (0x2060, 0x2060), (0xFE00, 0xFE0F), (0xFEFF, 0xFEFF)]

/-- The intervals of code points that no label has: blanks, controls, private ones, surrogates and
numbers without a character. -/
def forbiddenRanges : Text.Ranges :=
  [(0x80, 0xA0), (0x340, 0x341), (0x6DD, 0x6DD), (0x70F, 0x70F), (0x1680, 0x1680),
   (0x180E, 0x180E), (0x2000, 0x200F), (0x2028, 0x202F), (0x205F, 0x2063), (0x206A, 0x206F),
   (0x2FF0, 0x2FFB), (0x3000, 0x3000), (0xD800, 0xF8FF), (0xFDD0, 0xFDEF), (0xFEFF, 0xFEFF),
   (0xFFF9, 0xFFFF), (0x1D173, 0x1D17A), (0x1FFFE, 0x1FFFF), (0x2FFFE, 0x2FFFF),
   (0x3FFFE, 0x3FFFF), (0x4FFFE, 0x4FFFF), (0x5FFFE, 0x5FFFF), (0x6FFFE, 0x6FFFF),
   (0x7FFFE, 0x7FFFF), (0x8FFFE, 0x8FFFF), (0x9FFFE, 0x9FFFF), (0xAFFFE, 0xAFFFF),
   (0xBFFFE, 0xBFFFF), (0xCFFFE, 0xCFFFF), (0xDFFFE, 0xDFFFF), (0xE0001, 0xE0001),
   (0xE0020, 0xE007F), (0xEFFFE, 0x10FFFF)]

/-- What is written from right to left has nothing in it that is written the other way, and has its
like at both ends. -/
def checkDirections (t : Text) : Except Flaw Unit :=
  if t.any (·.isRightToLeft) then
    if t.any (·.isLeftToRight) then .error .mixedDirections
    else if (t.head?.map (·.isRightToLeft)).getD false &&
        (t.getLast?.map (·.isRightToLeft)).getD false then .ok ()
    else .error .looseDirection
  else .ok ()

/-- A label prepared: folded, in its normal form and without what is dropped. -/
def prepare (label : Text) : Except Flaw Text := do
  let kept := label.filter fun c => !droppedRanges.contains c.toNat
  let normal := Text.normal (kept.flatMap CodePoint.folded)
  match normal.find? fun c => forbiddenRanges.contains c.toNat with
  | some c => .error (.forbidden c)
  | none =>
    checkDirections normal
    return normal

/-- A label as it is sent. -/
def encodeLabel (label : Text) : Except Flaw Text := do
  let label ← if isAscii label then pure label else prepare label
  if isAscii label then
    checkLabel label
    return label
  else if punycodeMark.isPrefixOf label then .error .marked
  else
    let encoded := punycodeMark ++ Punycode.encode label
    checkLabel encoded
    return encoded

/-- The point between labels. -/
def point : CodePoint := '.'

/-- Whether a code point stands between labels; some scripts have points of their own. -/
def isPoint (c : CodePoint) : Bool := [0x2E, 0x3002, 0xFF0E, 0xFF61].contains c.toNat

/-- A name as it is sent. Only the last label may be empty. -/
def encode (name : Text) : Except Flaw Text := do
  if isAscii name then
    let labels := Text.splitAll point name
    labels.dropLast.forM checkLabel
    if labelMax < (labels.getLast?.getD []).length then .error .longLabel
    return name
  else
    let labels := Text.splitAll point (name.map fun c => if isPoint c then point else c)
    let isOpen := labels.getLast? = some []
    let encoded ← (if isOpen then labels.dropLast else labels).mapM encodeLabel
    return [point].intercalate encoded ++ (if isOpen then [point] else [])

/-- A label as it is shown: what it tells, if it is in Punycode. -/
def decodeLabel (label : Text) : Except Flaw Text :=
  if punycodeMark.isPrefixOf label then do
    let shown ← (Punycode.decode (label.drop punycodeMark.length)).mapError .misread
    let sent ← encodeLabel shown
    if label.toLower = sent then .ok shown else .error (.unstable label sent)
  else .ok label

/-- A name as it is shown. -/
def decode (name : Text) : Except Flaw Text := do
  return [point].intercalate (← (Text.splitAll point name).mapM decodeLabel)

/-- A code point in its small form, as far as that is a letter of ASCII: the sign for kelvins has
one as well. -/
def lowered (c : CodePoint) : CodePoint := if c.toNat = 0x212A then 'k' else c.toLower

end Storefront.HostName
