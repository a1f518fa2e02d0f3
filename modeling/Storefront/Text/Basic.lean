/-!
# Text as a sequence of code points

A shop receives text from outside, and some of it cannot be written down as UTF-8: a JSON
escape may name one half of a surrogate pair and never its partner. Text is therefore a list of
code points with the surrogates among them, and only the places that must write bytes refuse
them.

## Main definitions

* `CodePoint` — a number below `0x110000`
* `Text` — a list of code points
* `Text.ofString`, `Text.toString` — the passage from and to strings without surrogates
* `Text.trimEnds` — a text without margins
* `Text.before` — a text up to a mark
* `Text.splitFirst`, `Text.splitLast`, `Text.splitAll` — a text at a separator
* `Text.Ranges` — a sorted table of intervals of code points, the form of every character class

## Main results

* `Text.splitFirst_of_notMem`, `Text.splitFirst_append` — a text is split at the first separator
-/

namespace Storefront

/-- A code point, surrogates included. -/
structure CodePoint where
  toNat : Nat
  isLt : toNat < 0x110000
  deriving DecidableEq

namespace CodePoint

instance : Inhabited CodePoint := ⟨⟨0, by decide⟩⟩

theorem ext {a b : CodePoint} (h : a.toNat = b.toNat) : a = b := by
  cases a; cases b; simp_all

/-- The code point of a character. -/
def ofChar (c : Char) : CodePoint :=
  ⟨c.toNat, by
    have h := c.valid
    simp only [UInt32.isValidChar, Nat.isValidChar] at h
    simp only [Char.toNat]
    omega⟩

instance : Coe Char CodePoint := ⟨ofChar⟩

/-- The code point of a number; a number that is none becomes the replacement character. -/
def ofNat (n : Nat) : CodePoint :=
  if h : n < 0x110000 then ⟨n, h⟩ else ⟨0xFFFD, by decide⟩

/-- The first half of a surrogate pair. -/
def isHighSurrogate (c : CodePoint) : Bool := 0xD800 ≤ c.toNat && c.toNat ≤ 0xDBFF

/-- The second half of a surrogate pair. -/
def isLowSurrogate (c : CodePoint) : Bool := 0xDC00 ≤ c.toNat && c.toNat ≤ 0xDFFF

/-- One half of a surrogate pair, which no UTF-8 text holds. -/
def isSurrogate (c : CodePoint) : Bool := 0xD800 ≤ c.toNat && c.toNat ≤ 0xDFFF

/-- The code point that a surrogate pair stands for. -/
def ofPair (high low : CodePoint) : CodePoint :=
  ofNat (0x10000 + (high.toNat - 0xD800) * 0x400 + (low.toNat - 0xDC00))

/-- The small letter of an ASCII capital; every other code point is kept. -/
def toLower (c : CodePoint) : CodePoint :=
  if 0x41 ≤ c.toNat && c.toNat ≤ 0x5A then ofNat (c.toNat + 0x20) else c

/-- The capital of an ASCII small letter; every other code point is kept. -/
def toUpper (c : CodePoint) : CodePoint :=
  if 0x61 ≤ c.toNat && c.toNat ≤ 0x7A then ofNat (c.toNat - 0x20) else c

/-- The value of an ASCII digit. -/
def asciiDigit? (c : CodePoint) : Option Nat :=
  if 0x30 ≤ c.toNat && c.toNat ≤ 0x39 then some (c.toNat - 0x30) else none

/-- The value of a hexadecimal digit, in either case. -/
def hexDigit? (c : CodePoint) : Option Nat :=
  if 0x30 ≤ c.toNat && c.toNat ≤ 0x39 then some (c.toNat - 0x30)
  else if 0x41 ≤ c.toNat && c.toNat ≤ 0x46 then some (c.toNat - 0x37)
  else if 0x61 ≤ c.toNat && c.toNat ≤ 0x66 then some (c.toNat - 0x57)
  else none

end CodePoint

/-- A text: its code points from first to last. -/
abbrev Text := List CodePoint

namespace Text

/-- The text of a string. -/
def ofString (s : String) : Text := s.toList.map CodePoint.ofChar

/-- The string of a text without surrogates; a surrogate becomes the character NUL. -/
def toString (t : Text) : String := String.ofList (t.map fun c => Char.ofNat c.toNat)

/-- Every ASCII capital made small. -/
def toLower (t : Text) : Text := t.map CodePoint.toLower

/-- Every ASCII small letter made a capital. -/
def toUpper (t : Text) : Text := t.map CodePoint.toUpper

/-- Whether some code point is a surrogate, so that the text has no UTF-8 form. -/
def hasSurrogate (t : Text) : Bool := t.any CodePoint.isSurrogate

/-- The text without the code points of a class at its two ends. -/
def trimEnds (isMargin : CodePoint → Bool) (t : Text) : Text :=
  ((t.dropWhile isMargin).reverse.dropWhile isMargin).reverse

/-- The part of a text before a mark in it, or the whole text if the mark is not in it, after what
has been passed. -/
def beforeFrom (mark : Text) : Text → (passed : Text) → Text
  | [], passed => passed.reverse
  | c :: rest, passed =>
    if mark.isPrefixOf (c :: rest) then passed.reverse else beforeFrom mark rest (c :: passed)

/-- The part of a text before a mark in it, or the whole text if the mark is not in it. -/
def before (mark t : Text) : Text := beforeFrom mark t []

/-- The part of a text before the first separator, and the part after it if there is one. -/
def splitFirst (separator : CodePoint) (t : Text) : Text × Option Text :=
  let before := t.takeWhile (· != separator)
  match t.drop before.length with
  | [] => (before, none)
  | _ :: after => (before, some after)

/-- A text without the separator is not split. -/
theorem splitFirst_of_notMem {separator : CodePoint} {t : Text} (h : separator ∉ t) :
    splitFirst separator t = (t, none) := by
  have run : t.takeWhile (· != separator) = t := by
    have all : ∀ c ∈ t, (c != separator) = true := by
      intro c hc
      simpa using fun same : c = separator => h (same ▸ hc)
    have whole : (t ++ []).takeWhile (· != separator) = t ++ [].takeWhile (· != separator) :=
      List.takeWhile_append_of_pos all
    simpa using whole
  simp [splitFirst, run]

/-- The separator that counts is the first one. -/
theorem splitFirst_append {separator : CodePoint} {before : Text} (after : Text)
    (h : separator ∉ before) :
    splitFirst separator (before ++ separator :: after) = (before, some after) := by
  have run : (before ++ separator :: after).takeWhile (· != separator) = before := by
    rw [List.takeWhile_append_of_pos]
    · simp
    · intro c hc
      simpa using fun same : c = separator => h (same ▸ hc)
  simp [splitFirst, run]

/-- The part of a text before the last separator and the part after it, if there is one. -/
def splitLast (separator : CodePoint) (t : Text) : Option (Text × Text) :=
  match splitFirst separator t.reverse with
  | (_, none) => none
  | (after, some before) => some (before.reverse, after.reverse)

/-- The pieces between separators: one more piece than there are separators. -/
def splitAll (separator : CodePoint) (t : Text) : List Text :=
  let rec go : Text → Text → List Text → List Text
    | [], piece, done => (piece.reverse :: done).reverse
    | c :: rest, piece, done =>
      if c = separator then go rest [] (piece.reverse :: done) else go rest (c :: piece) done
  go t [] []

/-- A sorted table of closed intervals of code points. -/
abbrev Ranges := List (Nat × Nat)

/-- Whether a number lies in one of the intervals; the search ends at the first interval that
starts beyond it. -/
def Ranges.contains : Ranges → Nat → Bool
  | [], _ => false
  | (low, high) :: rest, n =>
    if n < low then false else if n ≤ high then true else Ranges.contains rest n

end Text

end Storefront
