import Storefront.Text.Hex

/-!
# Text as bytes

UTF-8 as a writer of code points and a reader of byte sequences. The reader splits a sequence into
units: a code point written in its shortest form, or stray bytes, which are the longest start of
such a form that is not gone on with, or else a single byte. A sequence is UTF-8 when no byte is
stray; a lenient reader finds another text for the stray bytes.

Halves of surrogate pairs have no place in UTF-8. The reader takes them when it is told to, in the
three-byte form that the pattern would give them.

## Main definitions

* `Text.utf8` — the bytes of a text
* `Utf8.units` — a byte sequence as code points and stray bytes
* `Utf8.decode?` — the text of a byte sequence without stray bytes
* `Utf8.decodePercent`, `Utf8.decodeReplacing` — stray bytes in percent notation, and the
  replacement character for each unit of them

## Main results

* `Text.surrogateRun?_eq_none_iff` — a text has a written form exactly if it has no surrogate
-/

namespace Storefront

/-- A sequence of bytes. -/
abbrev Bytes := List UInt8

/-- The bytes of a code point. -/
def CodePoint.utf8 (c : CodePoint) : Bytes :=
  let n := c.toNat
  if n < 0x80 then [.ofNat n]
  else if n < 0x800 then [.ofNat (0xC0 + n / 0x40), .ofNat (0x80 + n % 0x40)]
  else if n < 0x10000 then
    [.ofNat (0xE0 + n / 0x1000), .ofNat (0x80 + n / 0x40 % 0x40), .ofNat (0x80 + n % 0x40)]
  else
    [.ofNat (0xF0 + n / 0x40000), .ofNat (0x80 + n / 0x1000 % 0x40),
     .ofNat (0x80 + n / 0x40 % 0x40), .ofNat (0x80 + n % 0x40)]

/-- The bytes of a text. -/
def Text.utf8 (t : Text) : Bytes := t.flatMap CodePoint.utf8

/-- The place of the first surrogate and the run of surrogates that starts there: what keeps a
text from being written as UTF-8. -/
def Text.surrogateRun? (t : Text) : Option (Nat × Text) :=
  let before := t.takeWhile (!·.isSurrogate)
  match (t.drop before.length).takeWhile (·.isSurrogate) with
  | [] => none
  | run => some (before.length, run)

/-- Only surrogates keep a text from being written. -/
theorem Text.surrogateRun?_eq_none_iff {t : Text} :
    t.surrogateRun? = none ↔ t.hasSurrogate = false := by
  unfold surrogateRun? hasSurrogate
  dsimp only
  induction t with
  | nil => simp
  | cons c rest ih =>
    cases h : c.isSurrogate with
    | true => simp [h]
    | false =>
      rw [List.takeWhile_cons_of_pos (by simp [h]), List.any_cons, h, Bool.false_or, ← ih]
      simp only [List.length_cons, List.drop_succ_cons]
      split <;> simp_all

namespace Utf8

/-- A piece of a byte sequence: a code point, or bytes that are none. -/
inductive Unit
  | point (c : CodePoint)
  | stray (bytes : Bytes)
  deriving DecidableEq

/-- The six bits of a continuation byte. -/
def tail? (b : UInt8) : Option Nat :=
  if 0x80 ≤ b.toNat && b.toNat < 0xC0 then some (b.toNat - 0x80) else none

/-- The code point that starts with the byte `a` and goes on in `rest`, and the number of further
bytes that it takes. With `surrogates` the halves of surrogate pairs are read as well. -/
def first? (surrogates : Bool) (a : UInt8) (rest : Bytes) : Option (CodePoint × Nat) :=
  let n := a.toNat
  if n < 0x80 then some (.ofNat n, 0)
  else if n < 0xC2 then none
  else if n < 0xE0 then
    match rest with
    | b :: _ => do
      let b ← tail? b
      return (.ofNat ((n - 0xC0) * 0x40 + b), 1)
    | _ => none
  else if n < 0xF0 then
    match rest with
    | b :: c :: _ => do
      let b ← tail? b
      let c ← tail? c
      let point := (n - 0xE0) * 0x1000 + b * 0x40 + c
      -- A form that is longer than needed is none.
      if point < 0x800 then none
      else if !surrogates && 0xD800 ≤ point && point ≤ 0xDFFF then none
      else some (.ofNat point, 2)
    | _ => none
  else if n < 0xF5 then
    match rest with
    | b :: c :: d :: _ => do
      let b ← tail? b
      let c ← tail? c
      let d ← tail? d
      let point := (n - 0xF0) * 0x40000 + b * 0x1000 + c * 0x40 + d
      if point < 0x10000 || 0x110000 ≤ point then none else some (.ofNat point, 3)
    | _ => none
  else none

/-- How many bytes follow a first byte in the form of a code point. -/
def tailLength (a : UInt8) : Nat :=
  let n := a.toNat
  if n < 0xC2 then 0 else if n < 0xE0 then 1 else if n < 0xF0 then 2 else if n < 0xF5 then 3 else 0

/-- Whether some code point has a form that starts with these two bytes. Forms that are longer than
needed, surrogates and numbers beyond the last code point differ from the others here already. -/
def isStart (a b : UInt8) : Bool :=
  let low : Nat := if a = 0xE0 then 0xA0 else if a = 0xF0 then 0x90 else 0x80
  let high : Nat := if a = 0xED then 0x9F else if a = 0xF4 then 0x8F else 0xBF
  0 < tailLength a && low ≤ b.toNat && b.toNat ≤ high

/-- How many of the bytes after a stray byte `a` are stray with it: those with which it is still the
start of some code point's form. -/
def strayTail (a : UInt8) (rest : Bytes) : Nat :=
  match rest with
  | b :: rest =>
    if isStart a b then
      1 + ((rest.take (tailLength a - 1)).takeWhile fun c => (tail? c).isSome).length
    else 0
  | [] => 0

/-- The units of a byte sequence in front of those already found; the next `skip` bytes belong to
the last of these. -/
def unitsFrom (surrogates : Bool) : Bytes → (skip : Nat) → List Unit → List Unit
  | [], _, done => done.reverse
  | _ :: rest, skip + 1, done => unitsFrom surrogates rest skip done
  | b :: rest, 0, done =>
    match first? surrogates b rest with
    | some (c, more) => unitsFrom surrogates rest more (.point c :: done)
    | none =>
      let more := strayTail b rest
      unitsFrom surrogates rest more (.stray (b :: rest.take more) :: done)

/-- A byte sequence as code points and stray bytes. -/
def units (surrogates : Bool) (bytes : Bytes) : List Unit := unitsFrom surrogates bytes 0 []

/-- The code point of a unit. -/
def Unit.point? : Unit → Option CodePoint
  | .point c => some c
  | .stray _ => none

/-- The text of a unit, given the text of stray bytes. -/
def Unit.text (stray : Bytes → Text) : Unit → Text
  | .point c => [c]
  | .stray bytes => stray bytes

/-- The text of a byte sequence without stray bytes. -/
def decode? (surrogates : Bool) (bytes : Bytes) : Option Text :=
  (units surrogates bytes).mapM Unit.point?

/-- The text of a byte sequence, with each stray byte in percent notation. -/
def decodePercent (bytes : Bytes) : Text :=
  (units false bytes).flatMap (Unit.text (·.flatMap Text.percent))

/-- The text of a byte sequence, with the replacement character for each unit of stray bytes. -/
def decodeReplacing (bytes : Bytes) : Text :=
  (units false bytes).flatMap (Unit.text fun _ => [CodePoint.ofNat 0xFFFD])

end Utf8

end Storefront
