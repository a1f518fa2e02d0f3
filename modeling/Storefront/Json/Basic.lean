import Storefront.Number.Shortest
import Storefront.Text.Quoted

/-!
# JSON values

The values that a JSON text writes. Integers and floating-point numbers are kept apart, since `1`
and `1.0` are different things to a form; the members of an object keep the order in which
their names first appeared.

## Main definitions

* `Json` — the type
* `Json.Members.get?`, `Json.Members.set` — the members of an object by name
* `Json.isTruthy` — whether a value counts as present
* `Json.literal`, `Json.shown` — the text of a value in a page or a message
-/

namespace Storefront

/-- A JSON value. -/
inductive Json
  | null
  | bool (value : Bool)
  | int (value : Int)
  | float (value : Binary64)
  | str (value : Text)
  | arr (items : List Json)
  | obj (members : List (Text × Json))

namespace Json

instance : Inhabited Json := ⟨null⟩

/-- The members of an object, each name once. -/
abbrev Members := List (Text × Json)

/-- The value of a name. -/
def Members.get? (members : Members) (name : Text) : Option Json := members.lookup name

/-- The members with one value changed; a new name comes last. -/
def Members.set (members : Members) (name : Text) (value : Json) : Members :=
  if members.any (·.1 = name) then
    members.map fun member => if member.1 = name then (name, value) else member
  else members ++ [(name, value)]

/-- Whether a value counts as present: neither null nor false, no zero and nothing empty. -/
def isTruthy : Json → Bool
  | null => false
  | bool b => b
  | int n => n != 0
  | float x => !x.isZero
  | str t => !t.isEmpty
  | arr items => !items.isEmpty
  | obj members => !members.isEmpty

/-- Texts with a comma and a space between them. -/
def commaSeparated (texts : List Text) : Text := (Text.ofString ", ").intercalate texts

mutual

/-- A value as it is shown inside another one, with its texts between quotes. -/
def literal : Json → Text
  | null => Text.ofString "None"
  | bool true => Text.ofString "True"
  | bool false => Text.ofString "False"
  | int n => Text.ofInt n
  | float x => x.text
  | str t => t.quoted
  | arr items => ('[' : CodePoint) :: commaSeparated (literals items) ++ [(']' : CodePoint)]
  | obj members =>
    ('\x7b' : CodePoint) :: commaSeparated (memberLiterals members) ++ [('\x7d' : CodePoint)]

/-- The items of an array as they are shown. -/
def literals : List Json → List Text
  | [] => []
  | item :: rest => literal item :: literals rest

/-- The members of an object as they are shown. -/
def memberLiterals : List (Text × Json) → List Text
  | [] => []
  | (name, value) :: rest =>
    (name.quoted ++ Text.ofString ": " ++ literal value) :: memberLiterals rest

end

/-- A value as it is shown on its own: a text is itself. -/
def shown : Json → Text
  | str t => t
  | value => literal value

end Json

end Storefront
