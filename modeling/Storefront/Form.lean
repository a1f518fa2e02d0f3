import Storefront.Text.Percent

/-!
# Form data

A form is sent as its names and values in percent notation, a plus sign for a space, an equals sign
between name and value and an ampersand between pairs. A part without an equals sign is a name with
an empty value, and empty parts are no pairs. Bytes that are no UTF-8 stay in percent notation.

## Main definitions

* `Form.read` — the pairs of a form
* `Form.grouped` — pairs in the order in which they are sent
-/

namespace Storefront.Form

/-- The pieces of a byte sequence between separators, in front of those already found. -/
def splitFrom (separator : UInt8) : Bytes → (piece : Bytes) → List Bytes → List Bytes
  | [], piece, done => (piece.reverse :: done).reverse
  | b :: rest, piece, done =>
    if b = separator then splitFrom separator rest [] (piece.reverse :: done)
    else splitFrom separator rest (b :: piece) done

/-- The text that a part of a form writes. -/
def readPart (bytes : Bytes) : Text :=
  Utf8.decodePercent (Bytes.percentDecode (bytes.map fun b => if b = 0x2B then 0x20 else b))

/-- The name and value of a part: the equals sign is the first one. -/
def readPair (bytes : Bytes) : Text × Text :=
  let name := bytes.takeWhile (· != 0x3D)
  (readPart name, readPart (bytes.drop (name.length + 1)))

/-- The pairs of a form. What is no UTF-8 before percent notation is decoded is no form and has no
pairs. -/
def read (bytes : Bytes) : List (Text × Text) :=
  if (Utf8.decode? false bytes).isSome then
    ((splitFrom 0x26 bytes [] []).filter (!·.isEmpty)).map readPair
  else []

/-- The pairs of a form in the order in which they are sent: those of one name stand together, where
its first one stands. -/
def grouped (pairs : List (Text × Text)) : List (Text × Text) :=
  (pairs.map (·.1)).eraseDups.flatMap fun name => pairs.filter (·.1 = name)

/-- Grouping neither loses a pair nor adds one. -/
theorem mem_grouped {pair : Text × Text} {pairs : List (Text × Text)} :
    pair ∈ grouped pairs ↔ pair ∈ pairs := by
  simp only [grouped, List.mem_flatMap, List.mem_eraseDups, List.mem_map, List.mem_filter,
    decide_eq_true_eq]
  constructor
  · rintro ⟨_, _, h, _⟩
    exact h
  · intro h
    exact ⟨pair.1, ⟨pair, h, rfl⟩, h, rfl⟩

end Storefront.Form
