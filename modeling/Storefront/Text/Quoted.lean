import Storefront.Text.Hex
import Storefront.Text.Printable

/-!
# Quoted text

A text inside a message or a list is shown between quotes, so that its ends and its invisible
characters can be seen. The quote is an apostrophe, unless the text holds an apostrophe and no
double quote. The backslash and the quote itself are written after a backslash, tab and line ends
by their letters, and whatever is not printable by its number in two, four or eight hexadecimal
digits.

## Main definitions

* `Text.quote` — the mark that encloses a text
* `Text.quoted` — the text between its marks
-/

namespace Storefront

/-- How a code point is written between the given quotes. -/
def CodePoint.quoted (quote c : CodePoint) : Text :=
  if c = quote || c = ('\\' : CodePoint) then ['\\', c]
  else if c = ('\t' : CodePoint) then ['\\', 't']
  else if c = ('\n' : CodePoint) then ['\\', 'n']
  else if c = ('\r' : CodePoint) then ['\\', 'r']
  else if c.isPrintable then [c]
  else if c.toNat < 0x100 then '\\' :: 'x' :: Text.hex 2 c.toNat
  else if c.toNat < 0x10000 then '\\' :: 'u' :: Text.hex 4 c.toNat
  else '\\' :: 'U' :: Text.hex 8 c.toNat

namespace Text

/-- The mark that encloses a text. -/
def quote (t : Text) : CodePoint :=
  if t.contains ('\'' : CodePoint) && !t.contains ('"' : CodePoint) then '"' else '\''

/-- The text between quotes. -/
def quoted (t : Text) : Text := t.quote :: t.flatMap (CodePoint.quoted t.quote) ++ [t.quote]

end Text

end Storefront
