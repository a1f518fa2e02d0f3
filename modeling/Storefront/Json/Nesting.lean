import Storefront.Json.Reader

/-!
# How deep a text is nested

Whoever reads arrays and objects within one another by calls within one another runs out of room for
calls at some depth. A text that goes deeper is not refused as one that is no JSON: the reading is
broken off at the bracket for which there is no room, whatever comes after it. What is wrong with
the text before that bracket is seen first.

## Main definitions

* `Json.Bracket` — what can be nested
* `Json.Reader.depth` — how many brackets are open
* `Json.excess?` — the bracket of a text for which there is no room
-/

namespace Storefront.Json

/-- What can be nested. -/
inductive Bracket
  | array
  | object
  deriving DecidableEq, Repr

/-- Whether a string is the name of a member. -/
def Purpose.isName : Purpose → Bool
  | value => false
  | name _ => true

/-- Whether an object is open of which a name is read or waited for. No frame stands for it then. -/
def Mode.isNaming : Mode → Bool
  | firstName | name _ | colon .. => true
  | string opened | escape opened | unicode opened .. => opened.purpose.isName
  | value | firstItem | word .. | number .. | done _ => false

/-- How many brackets are open. -/
def Reader.depth (reader : Reader) : Nat :=
  reader.frames.length + if reader.mode.isNaming then 1 else 0

/-- The bracket that was opened just now. -/
def Mode.bracket : Mode → Bracket
  | firstName => .object
  | _ => .array

/-- The first bracket in the rest of a text that is one too many to be open at once. -/
def Reader.excess? (room : Nat) (reader : Reader) : Text → Option Bracket
  | [] => none
  | c :: rest =>
    match reader.step c with
    | .error _ => none
    | .ok after =>
      if room < after.depth then some after.mode.bracket else after.excess? room rest

/-- The first bracket of a text that is one too many to be open at once. -/
def excess? (room : Nat) (t : Text) : Option Bracket :=
  if t.head? = some (.ofNat 0xFEFF) then none else Reader.excess? room ⟨.value, [], 0⟩ t

end Storefront.Json
