import Storefront.Fault
import Storefront.Text.Percent

/-!
# Texts that can be written

A text that leaves the shop is written as bytes, which one with surrogates has not. The fault then
tells where the first of them stand.

## Main definitions

* `Text.checkWritten` — whether a text can be written
* `Text.percentEncoded` — a text in percent notation, if it can be written

## Main results

* `Text.checkWritten_eq_ok_iff` — only surrogates are refused
-/

namespace Storefront.Text

/-- A text can be written as bytes when it has no surrogates. -/
def checkWritten (t : Text) : Except Fault Unit :=
  match t.surrogateRun? with
  | none => .ok ()
  | some (place, run) => .error (.unencodable place run)

theorem checkWritten_eq_ok_iff {t : Text} : checkWritten t = .ok () ↔ t.hasSurrogate = false := by
  rw [← surrogateRun?_eq_none_iff, checkWritten]
  cases t.surrogateRun? <;> simp

/-- A text in percent notation, but for the characters declared safe, if it can be written. -/
def percentEncoded (t : Text) (safe : String) : Except Fault Text := do
  t.checkWritten
  return t.percentEncode (Text.ofString safe)

end Storefront.Text
