import Storefront.Product.Basic
import Storefront.Web.Page

/-!
# Visitors

The home page can be made for whoever is looking at it: nobody, a user, or some value that may have
an email. Only the email matters, and whether there is a visitor at all.

## Main definitions

* `Visitor` — who is looking
* `Visitor.email?` — the visitor's email
* `Visitor.homePage` — the home page for a visitor
-/

namespace Storefront

/-- Who is looking at the home page. -/
inductive Visitor
  /-- Nobody. -/
  | absent
  /-- Somebody who is not logged in. -/
  | anonymous
  /-- A record with some attributes. -/
  | record (attributes : Json.Members)
  /-- A user made from some fields. -/
  | user (fields : Json.Members)
  /-- A value; an object is asked for its member. -/
  | value (value : Json)

namespace Visitor

/-- The name of the attribute that is asked for. -/
def emailName : Text := Text.ofString "email"

/-- The email of a visitor, null without one. A record that says that it is anonymous is nobody, as
is a value that counts as absent. -/
def email? : Visitor → Except Fault Json
  | absent | anonymous => .ok .null
  | record attributes =>
    if ((attributes.get? (Text.ofString "is_anonymous")).getD .null).isTruthy then .ok .null
    else
      match Json.Members.get? attributes emailName with
      | some email => .ok email
      | none => .error (.missingRecordAttribute emailName)
  | user fields => do (← Record.ofFields .users fields).read emailName
  | .value shown =>
    if !shown.isTruthy then .ok .null
    else
      match shown with
      | .obj members =>
        match Json.Members.get? members emailName with
        | some email => .ok email
        | none => .error (.missingMember emailName)
      | _ => .error (.missingAttribute shown emailName)

/-- The home page for a visitor. -/
def homePage (visitor : Visitor) : Except Fault Text :=
  visitor.email?.map fun
    | .null => Page.home none
    | email => Page.home (some email.shown)

end Visitor

end Storefront
