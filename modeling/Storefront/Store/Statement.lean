import Storefront.Product.Draft
import Storefront.Store.Basic
import Storefront.Store.Cell

/-!
# Statements

What is asked of the rows of a table is a statement with values for its places. A statement is
prepared before its values are taken, and run after that. Preparing it needs its table, and so does
running it; a connection remembers the statements that it has prepared, and then a value that has no
form for the store is found before a missing table is. A statement that writes is refused by a
store that takes no writes before any rule about the rows is applied.

A fault may be left on the connection by what was done there last. A query that is prepared already
and has a value without a form for the store is told of that fault instead.

## Main definitions

* `Statement` — the statements
* `Statement.Call` — a statement with its values, and what it does to the store
* `Statement.Call.run` — what a call comes to
* `Store.userById`, `Store.userByEmail`, `Store.productById`, `Store.productBySku` — the queries
* `Store.addUser`, `Store.addProduct`, `Store.delete` — insertions and deletions
-/

namespace Storefront

/-- The statements that take values. -/
inductive Statement
  | userById
  | userByEmail
  | addUser
  | deleteUser
  | productById
  | productBySku
  | addProduct
  | deleteProduct
  deriving DecidableEq, Repr

/-- The table of a statement. -/
def Statement.table : Statement → Table
  | userById | userByEmail | addUser | deleteUser => .users
  | productById | productBySku | addProduct | deleteProduct => .products

/-- Whether a statement writes. What does so begins with a step of its own, which leaves nothing of
an older fault on the connection. -/
def Statement.writes : Statement → Bool
  | addUser | deleteUser | addProduct | deleteProduct => true
  | userById | userByEmail | productById | productBySku => false

/-- A statement with its values in their forms for the store, if they have any, and what it does to
the store with these. -/
structure Statement.Call (β α : Type) where
  statement : Statement
  values : Except Fault β
  effect : β → Store → Except Fault (α × Store)

namespace Statement.Call

variable {α β : Type}

/-- Whether the statement of a call is prepared or can be. -/
def isReady (call : Call β α) (isPrepared : Bool) (store : Store) : Bool :=
  isPrepared || store.has call.statement.table

/-- The values of a call, or the fault that there is instead: one that is left on the connection
hides theirs from a query that is prepared already. -/
def taken (call : Call β α) (isPrepared : Bool) (left : Option Fault) : Except Fault β :=
  match call.values, left with
  | .error fault, some older =>
    .error (if isPrepared && !call.statement.writes then older else fault)
  | values, _ => values

/-- What a call comes to on a connection that has prepared its statement before or has not, and on
which a fault may be left. -/
def run (call : Call β α) (isPrepared : Bool) (left : Option Fault) (store : Store) :
    Except Fault (α × Store) :=
  if call.isReady isPrepared store then do
    let values ← call.taken isPrepared left
    call.effect values store
  else .error (.noTable call.statement.table)

/-- The fault that is left on the connection by a call that has failed. What writes is undone. -/
def leaves (call : Call β α) (isPrepared : Bool) (store : Store) (fault : Fault) : Option Fault :=
  if call.statement.writes && call.isReady isPrepared store then none
  else if fault.kind = .operational then some fault
  else none

/-- Values that have forms for the store are taken whatever is left on the connection. -/
theorem taken_of_ok {call : Call β α} {values : β} (h : call.values = .ok values)
    (isPrepared : Bool) (left : Option Fault) : call.taken isPrepared left = .ok values := by
  simp [taken, h]

end Statement.Call

/-- A query: the store stays as it is. -/
def Statement.query {α β : Type} (statement : Statement) (values : Except Fault β)
    (answer : β → Store → Except Fault α) : Statement.Call β α where
  statement
  values
  effect values store := (answer values store).map (·, store)

namespace Store

/-- The user with a number. -/
def userById (id : Int) : Statement.Call Unit (Option User) :=
  Statement.userById.query (Cell.checkInteger id) fun _ store => do
    let users ← rows .users store.users
    return users.find? fun user => (user.id : Int) = id

/-- The user with an email. -/
def userByEmail (email : Text) : Statement.Call Unit (Option User) :=
  Statement.userByEmail.query (email.checkWritten) fun _ store => do
    let users ← rows .users store.users
    return users.find? fun user => user.email = email

/-- The product with a number. -/
def productById (id : Int) : Statement.Call Unit (Option Product) :=
  Statement.productById.query (Cell.checkInteger id) fun _ store => do
    let products ← rows .products store.products
    return products.find? fun product => (product.id : Int) = id

/-- The product with a SKU. -/
def productBySku (sku : Text) : Statement.Call Unit (Option Product) :=
  Statement.productBySku.query (sku.checkWritten) fun _ store => do
    let products ← rows .products store.products
    return products.find? fun product => product.sku = some sku

/-- A column that must have a value, of a table. -/
def required {α : Type} (table : Table) (column : String) : Option α → Except Fault α
  | some a => .ok a
  | none => .error (.notNull ⟨table, Text.ofString column⟩)

/-- A new user; two users never have one email. -/
def addUser (name : Json) (email : Text) : Statement.Call (Option Text) User where
  statement := .addUser
  values := do
    -- Values are taken in the order of their columns.
    let name ← Cell.ofJson 1 name
    email.checkWritten
    return name.inTexts
  effect name store := do
    let users ← rows .users store.users
    store.checkWritable
    let id ← newId (users.map User.id)
    let name ← required .users "name" name
    if users.any (·.email = email) then
      .error (.notUnique ⟨.users, Text.ofString "email"⟩)
    else
      let user : User := { id, name, email }
      return (user, { store with users := some (users ++ [user]) })

/-- A price as it is kept: a zero has no sign, and NaN is no value. -/
def keptPrice : Binary64 → Option Binary64
  | .nan => none
  | x => some (if x.isZero then .zero false else x)

/-- What the columns keep of a new product, before it is known whether each has what it must
have. -/
structure Entry where
  title : Option Text
  sku : Option Text
  description : Option Text
  price : Option Binary64
  stock : Option Stock
  isActive : Bool

/-- The values of a draft as their columns keep them, taken in the order of the columns. -/
def entry (draft : Product.Draft) (price : Binary64) (isActive : Bool) : Except Fault Entry := do
  let title ← Cell.ofJson 1 draft.title
  let sku ← Cell.ofJson 2 draft.sku
  let description ← Cell.ofJson 3 draft.description
  let stock ← Cell.ofJson 5 (Product.orDefault (.int 0) draft.stock)
  return {
    title := title.inTexts
    sku := sku.inTexts
    description := description.inTexts
    price := keptPrice price
    stock := stock.inIntegers
    isActive }

/-- A new product; two products never have one SKU, though any number may have none. -/
def addProduct (draft : Product.Draft) (price : Binary64) (isActive : Bool) :
    Statement.Call Entry Product where
  statement := .addProduct
  values := entry draft price isActive
  effect entry store := do
    let products ← rows .products store.products
    store.checkWritable
    let id ← newId (products.map Product.id)
    let title ← required .products "title" entry.title
    let price ← required .products "price" entry.price
    let stock ← required .products "stock" entry.stock
    if entry.sku.isSome && products.any (·.sku = entry.sku) then
      .error (.notUnique ⟨.products, Text.ofString "sku"⟩)
    else
      let product : Product :=
        { id, title, sku := entry.sku, description := entry.description, price, stock
          isActive := entry.isActive }
      return (product, { store with products := some (products ++ [product]) })

/-- A row deleted, and how many rows that were. -/
def delete (table : Table) (id : Int) : Statement.Call Unit Nat :=
  match table with
  | .users =>
    { statement := .deleteUser
      values := Cell.checkInteger id
      effect := fun _ store => do
        let users ← rows .users store.users
        store.checkWritable
        let (count, kept) := without User.id id users
        return (count, { store with users := some kept }) }
  | .products =>
    { statement := .deleteProduct
      values := Cell.checkInteger id
      effect := fun _ store => do
        let products ← rows .products store.products
        store.checkWritable
        let (count, kept) := without Product.id id products
        return (count, { store with products := some kept }) }

end Store

end Storefront
