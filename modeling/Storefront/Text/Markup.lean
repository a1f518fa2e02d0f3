import Storefront.Text.Basic

/-!
# Text in a page

Text from outside is put into a page with the five characters that mean something to a browser
replaced by entities. What is written this way holds no tag and no quote, whatever was put in.

## Main definitions

* `CodePoint.escaped`, `Text.escaped` — the replacement
-/

namespace Storefront

/-- The form of a code point in a page. -/
def CodePoint.escaped (c : CodePoint) : Text :=
  if c = ('&' : CodePoint) then Text.ofString "&amp;"
  else if c = ('<' : CodePoint) then Text.ofString "&lt;"
  else if c = ('>' : CodePoint) then Text.ofString "&gt;"
  else if c = ('\'' : CodePoint) then Text.ofString "&#39;"
  else if c = ('"' : CodePoint) then Text.ofString "&#34;"
  else [c]

/-- The form of a text in a page. -/
def Text.escaped (t : Text) : Text := t.flatMap CodePoint.escaped

end Storefront
