import Storefront.Store.Statement

/-!
# What statements do

What has happened when a statement was made with success: its values had forms for the store, and
the store is as its effect has left it. A query leaves the store as it is; an insertion puts one row
behind the others, under a number and with an email or a SKU that no other row has; a deletion keeps
all rows but those with the number.

## Main definitions

* `Store.putUser`, `Store.putProduct` — a store with one more row
* `Store.removeRow` — a store without the row that has a number

## Main results

* `Statement.Call.run_eq_ok_iff` — when a call succeeds
* `Store.effect_addUser`, `Store.effect_addProduct` — when an insertion succeeds, and with what
* `Store.effect_delete` — what a deletion keeps
-/

namespace Storefront

/-- A result of a row of steps is a result of the last one. -/
theorem Except.bind_eq_ok_iff {ε α β : Type} {first : Except ε α} {next : α → Except ε β} {b : β} :
    (first >>= next) = .ok b ↔ ∃ a, first = .ok a ∧ next a = .ok b := by
  cases first <;> simp [bind, Except.bind]

namespace Statement.Call

variable {α β : Type} {call : Call β α} {isPrepared : Bool} {left : Option Fault} {store : Store}

/-- What is left on the connection never makes values of none. -/
theorem taken_eq_ok_iff {values : β} :
    call.taken isPrepared left = .ok values ↔ call.values = .ok values := by
  unfold taken
  cases call.values <;> cases left <;> simp

theorem run_eq_ok_iff {result : α × Store} :
    call.run isPrepared left store = .ok result ↔
      call.isReady isPrepared store = true ∧
        ∃ values, call.values = .ok values ∧ call.effect values store = .ok result := by
  unfold run
  split <;> simp_all [Except.bind_eq_ok_iff, taken_eq_ok_iff]

end Statement.Call

/-! ### Values that are handed over -/

namespace Cell

variable {position : Nat} {cell : Cell}

theorem ofJson_null (h : ofJson position .null = .ok cell) : cell = .null :=
  (Except.ok.inj h).symm

theorem ofJson_str {t : Text} (h : ofJson position (.str t) = .ok cell) : cell = .text t := by
  unfold ofJson at h
  cases written : t.checkWritten with
  | ok u => simpa [written, Except.map, eq_comm] using h
  | error fault => simp [written, Except.map] at h

theorem ofJson_int {n : Int} (h : ofJson position (.int n) = .ok cell) :
    cell = .integer n ∧ n ≤ maxInteger := by
  unfold ofJson at h
  cases checked : checkInteger n with
  | ok u =>
    have same : cell = .integer n := by simpa [checked, Except.map, eq_comm] using h
    exact ⟨same, (checkInteger_eq_ok_iff.1 checked).2⟩
  | error fault => simp [checked, Except.map] at h

end Cell

/-! ### Rows and tables -/

namespace Store

variable {store after : Store}

/-- The store with a user behind the others. -/
def putUser (store : Store) (user : User) : Store :=
  { store with users := store.users.map (· ++ [user]) }

/-- The store with a product behind the others. -/
def putProduct (store : Store) (product : Product) : Store :=
  { store with products := store.products.map (· ++ [product]) }

@[simp] theorem users_putUser (store : Store) (user : User) :
    (store.putUser user).users = store.users.map (· ++ [user]) := rfl

@[simp] theorem products_putUser (store : Store) (user : User) :
    (store.putUser user).products = store.products := rfl

@[simp] theorem users_putProduct (store : Store) (product : Product) :
    (store.putProduct product).users = store.users := rfl

@[simp] theorem products_putProduct (store : Store) (product : Product) :
    (store.putProduct product).products = store.products.map (· ++ [product]) := rfl

@[simp] theorem rows_eq_ok_iff {α : Type} {table : Table} {found : Option (List α)} {all : List α} :
    rows table found = .ok all ↔ found = some all := by
  cases found <;> simp [rows]

@[simp] theorem checkWritable_eq_ok_iff {u : Unit} :
    store.checkWritable = .ok u ↔ store.readOnly = false := by
  unfold checkWritable
  cases store.readOnly <;> simp

@[simp] theorem required_eq_ok_iff {α : Type} {table : Table} {column : String} {given : Option α}
    {a : α} : required table column given = .ok a ↔ given = some a := by
  cases given <;> simp [required]

/-! ### Queries -/

theorem effect_query {α β : Type} {statement : Statement} {values : Except Fault β}
    {answer : β → Store → Except Fault α} {v : β} {a : α} :
    (statement.query values answer).effect v store = .ok (a, after) ↔
      answer v store = .ok a ∧ after = store := by
  simp only [Statement.query]
  cases answer v store <;> simp [Except.map, eq_comm]

theorem effect_userById {id : Int} {u : Unit} {found : Option User} :
    (userById id).effect u store = .ok (found, after) ↔
      (∃ users, store.users = some users ∧ users.find? (fun user => (user.id : Int) = id) = found) ∧
        after = store := by
  rw [userById, effect_query]
  simp [Except.bind_eq_ok_iff, pure, Except.pure]

theorem effect_userByEmail {email : Text} {u : Unit} {found : Option User} :
    (userByEmail email).effect u store = .ok (found, after) ↔
      (∃ users, store.users = some users ∧ users.find? (fun user => user.email = email) = found) ∧
        after = store := by
  rw [userByEmail, effect_query]
  simp [Except.bind_eq_ok_iff, pure, Except.pure]

theorem effect_productById {id : Int} {u : Unit} {found : Option Product} :
    (productById id).effect u store = .ok (found, after) ↔
      (∃ products, store.products = some products ∧
        products.find? (fun product => (product.id : Int) = id) = found) ∧ after = store := by
  rw [productById, effect_query]
  simp [Except.bind_eq_ok_iff, pure, Except.pure]

theorem effect_productBySku {sku : Text} {u : Unit} {found : Option Product} :
    (productBySku sku).effect u store = .ok (found, after) ↔
      (∃ products, store.products = some products ∧
        products.find? (fun product => product.sku = some sku) = found) ∧ after = store := by
  rw [productBySku, effect_query]
  simp [Except.bind_eq_ok_iff, pure, Except.pure]

/-! ### Insertions -/

/-- The email of a new user must be one that can be written. -/
theorem values_addUser {name : Json} {email : Text} {kept : Option Text} :
    (addUser name email).values = .ok kept ↔
      email.checkWritten = .ok () ∧
        ∃ cell, Cell.ofJson 1 name = .ok cell ∧ cell.inTexts = kept := by
  simp only [addUser, Except.bind_eq_ok_iff, pure, Except.pure, Except.ok.injEq]
  constructor
  · rintro ⟨cell, made, ⟨⟩, written, kept_eq⟩
    exact ⟨written, cell, made, kept_eq⟩
  · rintro ⟨written, cell, made, kept_eq⟩
    exact ⟨cell, made, (), written, kept_eq⟩

/-- A user is added who has the next number and an email that no other user has. -/
theorem effect_addUser {name : Json} {email : Text} {kept : Option Text} {user : User} :
    (addUser name email).effect kept store = .ok (user, after) ↔
      ∃ users, store.users = some users ∧ store.readOnly = false ∧
        user.id = nextId (users.map User.id) ∧ user.id ≤ maxId ∧ kept = some user.name ∧
        user.email = email ∧ (∀ other ∈ users, other.email ≠ email) ∧
        after = store.putUser user := by
  simp only [addUser, Except.bind_eq_ok_iff, rows_eq_ok_iff, checkWritable_eq_ok_iff,
    newId_eq_ok_iff, required_eq_ok_iff]
  constructor
  · rintro ⟨users, hu, -, writable, id, ⟨hid, le⟩, name, rfl, h⟩
    split at h
    · cases h
    · next fresh =>
      simp only [pure, Except.pure, Except.ok.injEq, Prod.mk.injEq] at h
      obtain ⟨rfl, rfl⟩ := h
      refine ⟨users, hu, writable, hid, le, rfl, rfl, by simpa using fresh, ?_⟩
      simp [putUser, hu]
  · rintro ⟨users, hu, writable, hid, le, rfl, rfl, fresh, rfl⟩
    refine ⟨users, hu, (), writable, user.id, ⟨hid, le⟩, user.name, rfl, ?_⟩
    rw [if_neg (by simpa using fresh)]
    simp [pure, Except.pure, putUser, hu]

/-- A product is added that has the next number and no SKU that another product has. -/
theorem effect_addProduct {draft : Product.Draft} {price : Binary64} {isActive : Bool}
    {entry : Entry} {product : Product} :
    (addProduct draft price isActive).effect entry store = .ok (product, after) ↔
      ∃ products, store.products = some products ∧ store.readOnly = false ∧
        product.id = nextId (products.map Product.id) ∧ product.id ≤ maxId ∧
        entry = ⟨some product.title, product.sku, product.description, some product.price,
          some product.stock, product.isActive⟩ ∧
        (∀ other ∈ products, product.sku = none ∨ other.sku ≠ product.sku) ∧
        after = store.putProduct product := by
  simp only [addProduct, Except.bind_eq_ok_iff, rows_eq_ok_iff, checkWritable_eq_ok_iff,
    newId_eq_ok_iff, required_eq_ok_iff]
  constructor
  · rintro ⟨products, hp, -, writable, id, ⟨hid, le⟩, title, ht, price, hpr, stock, hs, h⟩
    split at h
    · cases h
    · next fresh =>
      simp only [pure, Except.pure, Except.ok.injEq, Prod.mk.injEq] at h
      obtain ⟨rfl, rfl⟩ := h
      refine ⟨products, hp, writable, hid, le, ?_, ?_, ?_⟩
      · cases entry
        simp_all
      · intro other mem
        cases hsku : entry.sku with
        | none => exact .inl rfl
        | some sku => simp_all
      · simp [putProduct, hp]
  · rintro ⟨products, hp, writable, hid, le, rfl, fresh, rfl⟩
    refine ⟨products, hp, (), writable, product.id, ⟨hid, le⟩, product.title, rfl, product.price,
      rfl, product.stock, rfl, ?_⟩
    rw [if_neg]
    · simp [pure, Except.pure, putProduct, hp]
    · simp only [Bool.and_eq_true, Option.isSome_iff_ne_none, List.any_eq_true, decide_eq_true_eq,
        not_and, not_exists]
      intro some other mem same
      exact (fresh other mem).elim some fun differs => differs same

/-! ### Deletions -/

/-- The store without the row of a table that has a number. -/
def removeRow (store : Store) (table : Table) (id : Int) : Store :=
  match table with
  | .users => { store with users := store.users.map (without User.id id · |>.2) }
  | .products => { store with products := store.products.map (without Product.id id · |>.2) }

/-- A deletion keeps all other rows. -/
theorem effect_delete {table : Table} {id : Int} {u : Unit} {count : Nat}
    (h : (delete table id).effect u store = .ok (count, after)) :
    after = store.removeRow table id := by
  cases table <;>
    simp only [delete, Except.bind_eq_ok_iff, rows_eq_ok_iff, pure, Except.pure,
      Except.ok.injEq, Prod.mk.injEq] at h <;>
    obtain ⟨rows, hr, -, -, -, rfl⟩ := h <;>
    simp [removeRow, hr]

end Store

end Storefront
