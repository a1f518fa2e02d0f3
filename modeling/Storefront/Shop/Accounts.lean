import Storefront.Shop.Basic

/-!
# Accounts

The services for users: the user of an email, who is made if there is none yet, and the user whom a
session names.

## Main definitions

* `userNumber` — the integer that a session's user number stands for
* `Shop.userFor` — the user of an email
* `Shop.currentUser` — the user whom a session names
-/

namespace Storefront

/-- The integer that a session's user number stands for. -/
def userNumber : Json → Except Fault Int
  | .bool b => .ok (if b then 1 else 0)
  | .int n => .ok n
  | .str t =>
    match Integer.read t with
    | .ok n => .ok n
    | .error why => .error (.misreadInteger t why)
  | .float .nan => .error .nanInteger
  | .float x =>
    match x.truncate? with
    | some n => .ok n
    | none => .error .infiniteInteger
  | value => .error (.notNumeric value)

namespace Shop

/-- A record about a user. -/
def userRecord (before : String) (user : User) (after : String) : Log.Record where
  level := .info
  source := .accounts
  message := Text.ofString before ++ Text.ofNat user.id ++ Text.ofString after

/-- The user of an email and whether the user is new. -/
def findOrAddUser (email : Text) : Service (User × Bool) := do
  match ← Service.call (Store.userByEmail email) with
  | some user => return (user, false)
  | none =>
    let user ← Service.call (Store.addUser (← Service.shop).config.defaultUserName email)
    return (user, true)

/-- The user of an email. One who is not there yet is made, under the name that new users have. -/
def userFor (email : Text) : Service User := do
  let (user, isNew) ← (findOrAddUser email).guarded
  if isNew then
    -- The new row is read back by its number.
    Service.change (·.remember .userById)
    Service.record (userRecord "Created user " user "")
  return user

/-- The user whom a session names. A number that no user has is nobody; without a number the store
is not asked. -/
def currentUser (key : Sessions.Key) : Service (Option User) := do
  match (← Service.shop).sessions.get? key with
  | none => return none
  | some id => Service.guarded do
    let number ← Service.ofFault (userNumber id)
    Service.call (Store.userById number)

end Shop

end Storefront
