import Storefront.Text.Basic

/-!
# Tables of code points

A table gives some code points a sequence of code points each, in the order of the code points. It
is written in lines of entries with blanks between them. An entry is the sequence, its hexadecimal
numbers joined by plus signs; a number and a colon in front of it tell whose sequence it is, and
without these it is that of the code point after the last one.

## Main definitions

* `Text.Table`, `Text.Table.get?` — tables
* `Text.Table.read` — the table that some lines write
-/

namespace Storefront.Text

/-- A table: code points in ascending order, each with a sequence. -/
abbrev Table := List (Nat × Text)

namespace Table

/-- The sequence of a code point; the search ends at the first entry beyond it. -/
def get? : Table → Nat → Option Text
  | [], _ => none
  | (m, sequence) :: rest, n =>
    if n < m then none else if n = m then some sequence else get? rest n

/-- The number that a text writes in hexadecimal digits. -/
def readNumber (t : Text) : Nat := (t.filterMap CodePoint.hexDigit?).foldl (16 * · + ·) 0

/-- A sequence of code points. -/
def readSequence (t : Text) : Text := (splitAll '+' t).map fun number => .ofNat (readNumber number)

/-- Entries, of which the first belongs to the given code point unless it names another one. -/
def readEntries (next : Nat) : List Text → Table
  | [] => []
  | entry :: rest =>
    match splitFirst ':' entry with
    | (number, some sequence) =>
      (readNumber number, readSequence sequence) :: readEntries (readNumber number + 1) rest
    | (sequence, none) => (next, readSequence sequence) :: readEntries (next + 1) rest

/-- The table that some lines write. -/
def read (lines : List String) : Table :=
  readEntries 0 (lines.flatMap fun line => splitAll ' ' (ofString line))

end Table

end Storefront.Text
